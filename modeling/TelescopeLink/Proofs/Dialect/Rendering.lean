import TelescopeLink.Proofs.Dialect.Wording

/-!
# NUL in rendered commands

NUL ends a text on the wire. The dialects never write one of their own: their verbs, numbers and
spaces have none, and letter case makes none of another character. But neither do they look for one
in what the caller gives, where it is no blank and so may be part of a name, a key or a raw text. So
the words of a command have a NUL exactly if the caller's own string has one
(`Dialect.nul_mem_render_iff`).
-/

namespace TelescopeLink

/-- The string that the caller gives with a command. -/
def Command.ownText : Command → String
  | .instrument name => name
  | .query key => key
  | .raw text => text
  | _ => ""

namespace Dialect

open Text

theorem nul_notMem_fixed (places : Nat) (x : Binary64) : '\x00' ∉ x.fixed places := by
  intro h
  rcases Binary64.isNumeral_of_mem_fixed h with h | h | h <;> exact absurd h (by decide)

theorem nul_notMem_plain {x : Binary64} (hfinite : x.isFinite = true) : '\x00' ∉ x.plain := by
  intro h
  rcases Binary64.isNumeral_of_mem_plain hfinite h with h | h | h <;> exact absurd h (by decide)

theorem nul_notMem_verb (dialect : Dialect) (command : Command) :
    '\x00' ∉ dialect.verb command := by
  cases dialect <;> cases command <;> simp [verb, Command.typeName]

/-- Numbers and labels have no NUL, and a name or a key has those of the caller. -/
theorem nul_mem_arguments_iff {dialect : Dialect} {command : Command}
    (haccepts : dialect.Accepts command) (hown : ∀ own, command ≠ .raw own) :
    (∃ argument ∈ dialect.arguments command, '\x00' ∈ argument) ↔
      '\x00' ∈ command.ownText.toList := by
  have htrim : ∀ own : String, '\x00' ∈ trim own.toList ↔ '\x00' ∈ own.toList :=
    fun own => mem_trim_iff (by decide)
  -- Case by case: a numeral has no NUL for a reason of its own in each dialect.
  cases dialect with
  | tcs =>
      cases command with
      | slew | offset | focus | rotator => simp [arguments, Command.ownText, nul_notMem_fixed]
      | autoguide enable => cases enable <;> decide
      | instrument name => simp [arguments, Command.ownText, nameLabel, htrim]
      | query key => simp [arguments, Command.ownText, nul_mem_upper_iff, htrim]
      | stop => simp [arguments, Command.ownText]
      | raw own => exact absurd rfl (hown own)
  | simulator =>
      cases command with
      | slew ra dec =>
          obtain ⟨hra, hdec, -⟩ := haccepts
          simp [arguments, Command.ownText, nul_notMem_plain hra, nul_notMem_plain hdec]
      | offset ra dec =>
          obtain ⟨hra, hdec⟩ := haccepts
          simp [arguments, Command.ownText, nul_notMem_plain hra, nul_notMem_plain hdec]
      | focus value | rotator value =>
          simp [arguments, Command.ownText, nul_notMem_plain haccepts]
      | instrument name => simp [arguments, Command.ownText, nameLabel, htrim]
      | query key => simp [arguments, Command.ownText, nul_mem_lower_iff, htrim]
      | autoguide | stop => simp [arguments, Command.ownText]
      | raw own => exact absurd rfl (hown own)

/-- **A NUL in the words of a command** comes from the caller, and none of the caller's is lost. -/
theorem nul_mem_render_iff {dialect : Dialect} {command : Command} {text : String}
    (h : dialect.render command = .ok (some text)) :
    '\x00' ∈ text.toList ↔ '\x00' ∈ command.ownText.toList := by
  by_cases hraw : ∃ own, command = .raw own
  · obtain ⟨own, rfl⟩ := hraw
    rw [eq_of_render_raw h]
    rfl
  · have hown : ∀ own, command ≠ .raw own := fun own hown => hraw ⟨own, hown⟩
    obtain ⟨haccepts, -, htext⟩ := unwords_of_render hown h
    -- NUL is no blank, so it stands in the text where it stands in a word.
    rw [htext, mem_unwords_iff (by decide), ← nul_mem_arguments_iff haccepts hown]
    simp [nul_notMem_verb]

end Dialect

end TelescopeLink
