import Mathlib.Data.List.OfFn
import Mathlib.Tactic.Common

/-!
Messages gathered from scattered memory.

A message is an array of entries, each with the place its bytes are at and how many there
are. Nothing is copied before it is sent, so a message stays what it was only as long as
nothing is written where its entries point.
-/

namespace Hysim.Lib.Gather

structure Iovec (Loc : Type) where
  base : Loc
  len : ℕ

variable {Loc β : Type} {n : ℕ}

def Iovec.bytes (mem : Loc → List β) (v : Iovec Loc) : List β := (mem v.base).take v.len

/-- What the first `k` entries of an array send. -/
def gather (mem : Loc → List β) (pkt : Fin n → Iovec Loc) (k : ℕ) : List β :=
  ((List.ofFn pkt).take k).flatMap (Iovec.bytes mem)

variable {mem mem' : Loc → List β} {pkt pkt' : Fin n → Iovec Loc} {k : ℕ}

@[simp] lemma gather_zero : gather mem pkt 0 = [] := rfl

lemma gather_succ (h : k < n) :
    gather mem pkt (k + 1) = gather mem pkt k ++ (pkt ⟨k, h⟩).bytes mem := by
  unfold gather
  rw [List.take_add_one, List.getElem?_ofFn, dif_pos h, List.flatMap_append]
  simp

lemma gather_congr (hk : k ≤ n)
    (h : ∀ i : Fin n, i.1 < k → (pkt' i).bytes mem' = (pkt i).bytes mem) :
    gather mem' pkt' k = gather mem pkt k := by
  induction k with
  | zero => rfl
  | succ k ih =>
    rw [gather_succ hk, gather_succ hk, h ⟨k, hk⟩ (Nat.lt_succ_self k),
      ih (Nat.le_of_succ_le hk) fun i hi => h i (hi.trans (Nat.lt_succ_self k))]

/-- The first `k` entries send these bytes, and point only to places in use. -/
structure Holds (used : Loc → Prop) (mem : Loc → List β) (pkt : Fin n → Iovec Loc) (k : ℕ)
    (bytes : List β) : Prop where
  le : k ≤ n
  sends : gather mem pkt k = bytes
  points : ∀ i : Fin n, i.1 < k → used (pkt i).base

variable {used used' : Loc → Prop} {bytes : List β}

lemma holds_zero : Holds used mem pkt 0 [] :=
  ⟨Nat.zero_le n, rfl, fun _ hi => absurd hi (Nat.not_lt_zero _)⟩

lemma Holds.frame (h : Holds used mem pkt k bytes) (hmem : ∀ l, used l → mem' l = mem l)
    (hpkt : ∀ i : Fin n, i.1 < k → pkt' i = pkt i) : Holds used mem' pkt' k bytes := by
  refine ⟨h.le, ?_, fun i hi => ?_⟩
  · rw [← h.sends]
    refine gather_congr h.le fun i hi => ?_
    rw [hpkt i hi, Iovec.bytes, Iovec.bytes, hmem _ (h.points i hi)]
  · rw [hpkt i hi]
    exact h.points i hi

lemma Holds.mono (h : Holds used mem pkt k bytes) (hused : ∀ l, used l → used' l) :
    Holds used' mem pkt k bytes :=
  ⟨h.le, h.sends, fun i hi => hused _ (h.points i hi)⟩

lemma Holds.push (h : Holds used mem pkt k bytes) (hk : k < n) {v : Iovec Loc}
    (hv : used v.base) :
    Holds used mem (Function.update pkt ⟨k, hk⟩ v) (k + 1) (bytes ++ v.bytes mem) := by
  have hkeep : Holds used mem (Function.update pkt ⟨k, hk⟩ v) k bytes :=
    h.frame (fun _ _ => rfl) fun i hi =>
      Function.update_of_ne (fun hik => absurd hi (by rw [hik]; exact lt_irrefl k)) _ _
  refine ⟨hk, ?_, fun i hi => ?_⟩
  · rw [gather_succ hk, hkeep.sends, Function.update_self]
  · by_cases hik : i = ⟨k, hk⟩
    · rw [hik, Function.update_self]
      exact hv
    · have hlt : i.1 < k := by
        have hne : i.1 ≠ k := fun h => hik (Fin.ext h)
        omega
      exact hkeep.points i hlt

lemma Holds.pushTwo (h : Holds used mem pkt k bytes) (hk : k + 1 < n)
    (hmem : ∀ l, used l → mem' l = mem l) (hused : ∀ l, used l → used' l) {v w : Iovec Loc}
    (hv : used' v.base) (hw : used' w.base) :
    Holds used' mem' (Function.update (Function.update pkt ⟨k, Nat.lt_of_succ_lt hk⟩ v)
      ⟨k + 1, hk⟩ w) (k + 2) (bytes ++ (v.bytes mem' ++ w.bytes mem')) := by
  have hframe := (h.frame hmem fun _ _ => rfl).mono hused
  have hpush := (hframe.push (Nat.lt_of_succ_lt hk) hv).push hk hw
  rwa [List.append_assoc] at hpush

end Hysim.Lib.Gather
