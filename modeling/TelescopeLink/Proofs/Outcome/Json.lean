import Mathlib.Tactic.SplitIfs
import TelescopeLink.Outcome.Json
import TelescopeLink.Proofs.Text.Decimal

/-!
# An outcome is one line

Nothing below the space is in a written outcome, whatever its texts are: inside quotes such characters
are escaped, and around them only digits, words and punctuation are written. So an outcome that is
printed with a line break behind it is one line (`newline_notMem_toJson`).
-/

namespace TelescopeLink

open Text

namespace Json

/-- Nothing in the text is below the space, so it is part of a line. -/
def Inline (cs : List Char) : Prop := ∀ c ∈ cs, 0x20 ≤ c.toNat

instance (cs : List Char) : Decidable (Inline cs) :=
  decidable_of_iff (cs.all fun c => Nat.ble 0x20 c.toNat) (by simp [Inline])

@[simp] theorem inline_nil : Inline [] := fun _ h => nomatch h

@[simp] theorem inline_cons_iff {c : Char} {cs : List Char} :
    Inline (c :: cs) ↔ 0x20 ≤ c.toNat ∧ Inline cs := List.forall_mem_cons

@[simp] theorem inline_append_iff {cs more : List Char} :
    Inline (cs ++ more) ↔ Inline cs ∧ Inline more := List.forall_mem_append

/-- The digits of characters below the space, as they are escaped. -/
theorem inline_digitChars :
    ∀ n < 0x20, Inline [Nat.digitChar (n / 16), Nat.digitChar (n % 16)] := by
  decide

/-- Characters below the space are escaped, the others are not among them. -/
theorem inline_escapeChar (c : Char) : Inline (escapeChar c) := by
  unfold escapeChar
  split_ifs with _ _ _ _ _ _ _ hcontrol
  any_goals decide
  · have hmark : Inline ['\\', 'u', '0', '0'] := by decide
    exact inline_append_iff.mpr ⟨hmark, inline_digitChars c.toNat hcontrol⟩
  · exact List.forall_mem_singleton.mpr (Nat.not_lt.mp hcontrol)

/-- Quotes hold whatever text there is within the line. -/
theorem inline_quote (cs : List Char) : Inline (quote cs) := by
  have hbody : Inline (cs.flatMap escapeChar) := by
    intro c hc
    obtain ⟨source, -, hc⟩ := List.mem_flatMap.mp hc
    exact inline_escapeChar source c hc
  simp [quote, hbody]

theorem inline_flagText (b : Bool) : Inline (flagText b) := by
  cases b <;> decide

/-- Digits and a minus stand above the space. -/
theorem inline_intDigits (n : Int) : Inline (intDigits n) := by
  have hdigits : Inline (natDigits n.natAbs) := by
    intro c hc
    have hdigit := isDigit_of_mem_natDigits hc
    simp only [Char.isDigit, Bool.and_eq_true, decide_eq_true_eq] at hdigit
    exact Nat.le_trans (by decide) hdigit.1
  unfold intDigits
  split
  · exact inline_cons_iff.mpr ⟨by decide, hdigits⟩
  · exact hdigits

theorem Inline.commas {items : List (List Char)} (h : ∀ item ∈ items, Inline item) :
    Inline (commas items) := by
  induction items using commas.induct with
  | case1 => exact inline_nil
  | case2 item => exact h item (List.mem_singleton_self item)
  | case3 item next more ih =>
      obtain ⟨hitem, hmore⟩ := List.forall_mem_cons.mp h
      exact inline_append_iff.mpr ⟨hitem, inline_cons_iff.mpr ⟨by decide, ih hmore⟩⟩

theorem Inline.bracketed {items : List (List Char)} (h : ∀ item ∈ items, Inline item) :
    Inline (bracketed items) := by
  simp [Json.bracketed, Inline.commas h]

theorem Inline.member {value : List Char} (name : String) (h : Inline value) :
    Inline (member name value) := by
  simp [Json.member, inline_quote, h]

theorem Inline.braced {members : List (List Char)} (h : ∀ item ∈ members, Inline item) :
    Inline (braced members) := by
  simp [Json.braced, Inline.commas h]

end Json

namespace Outcome

open Json

/-- **Nothing in a written outcome is below the space**, so there is nothing in it that ends a line.
-/
theorem inline_toJson (outcome : Outcome) : Inline outcome.toJson.toList := by
  rw [toJson, String.toList_ofList]
  refine Inline.braced ?_
  intro item hitem
  simp only [List.mem_cons, List.not_mem_nil, or_false] at hitem
  rcases hitem with rfl | rfl | rfl | rfl
  · exact (inline_flagText _).member _
  · exact (inline_intDigits _).member _
  · exact (inline_quote _).member _
  · refine Inline.member _ (Inline.bracketed ?_)
    intro item hitem
    obtain ⟨value, -, rfl⟩ := List.mem_map.mp hitem
    exact inline_quote _

/-- **An outcome is written on one line.** -/
theorem newline_notMem_toJson (outcome : Outcome) : '\n' ∉ outcome.toJson.toList := by
  intro h
  exact absurd (inline_toJson outcome '\n' h) (by decide)

end Outcome

end TelescopeLink
