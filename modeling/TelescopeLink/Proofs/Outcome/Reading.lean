import TelescopeLink.Outcome.Json
import TelescopeLink.Proofs.Json.Reading

/-!
# Outcomes survive as JSON

What is written of an outcome is read as this outcome (`ofJson_toJson`), whatever its code and texts
are and however many values it has. Each field is read back in its own form up to what follows it.
From there the members are followed in order: each sets one field of those read so far (`Builds`), so
that behind the last none is missing.
-/

namespace TelescopeLink

open Json Text

namespace Outcome

/-! ### Fields -/

/-- Either word is read back, whatever stands behind it. -/
theorem readFlag_flagText (b : Bool) (rest : List Char) :
    readFlag (flagText b ++ rest) = .ok (b, rest) := by
  cases b <;> rfl

/-- A code is read back, since its bounds are within those of a number that is read exactly. -/
theorem readCode_intDigits (n : Int32) {rest : List Char} (h : EndsNumber rest) :
    readCode (intDigits n.toInt ++ rest) = .ok (n, rest) := by
  have hbounds : Int32.minValue.toInt ≤ n.toInt ∧ n.toInt ≤ Int32.maxValue.toInt :=
    ⟨n.minValue_le_toInt, n.toInt_le⟩
  have hread : readNumber (intDigits n.toInt ++ rest) = .ok (.whole n.toInt, rest) := by
    have hlow := n.le_toInt
    have hhigh := n.toInt_lt
    exact readNumber_intDigits (by omega) (by omega) h
  obtain ⟨c, cs, hcs, hc⟩ := intDigits_eq_cons n.toInt
  have hspace : isSpace c = false := by
    by_contra hspace
    simp only [isSpace, Bool.not_eq_false, Bool.or_eq_true, beq_iff_eq] at hspace
    rcases hspace with ((rfl | rfl) | rfl) | rfl <;> exact absurd hc (by decide)
  have hsign : (decide (c = '-') || c.isDigit) = true := by simpa using hc
  rw [hcs, List.cons_append] at hread ⊢
  rw [readCode, skipSpaces_cons hspace]
  simp only [hsign, if_true, hread, if_pos hbounds, Int32.ofInt_toInt]
  rfl

/-- A text is read back up to its closing quote. -/
theorem readText_quote (s : String) (rest : List Char) :
    readText (quote s.toList ++ rest) = .ok (s, rest) := by
  rw [quote_append]
  show (readTextBody _).map _ = _
  rw [readTextBody_escaped]
  simp [Except.map]

/-- The values are read one after another, also behind others. -/
theorem readTexts_separated (values : List String) {fuel : Nat} (hfuel : values.length < fuel)
    (isFirst : Bool) (rest : List Char) :
    readTexts fuel isFirst
        (separated isFirst (values.map fun value => quote value.toList) ++ ']' :: rest) =
      .ok (values, ']' :: rest) := by
  -- A step is used up for each value, and one for the bracket.
  induction values generalizing fuel isFirst with
  | nil =>
    obtain ⟨fuel, rfl⟩ : ∃ k, fuel = k + 1 := ⟨fuel - 1, by omega⟩
    rw [readTexts, List.map_nil, separated, List.nil_append, nextItem_bracket]
    rfl
  | cons value values ih =>
    obtain ⟨fuel, rfl⟩ : ∃ k, fuel = k + 1 := ⟨fuel - 1, by omega⟩
    have hvalue := readText_quote value
      (separated false (values.map fun value => quote value.toList) ++ ']' :: rest)
    have hlength : values.length < fuel := by simpa using hfuel
    have hmore := ih hlength false
    rw [quote, List.cons_append] at hvalue
    rw [readTexts, List.map_cons, separated, List.append_assoc, quote, nextItem_quoted]
    simp only [bind, Except.bind, if_true, hvalue, hmore]
    rfl

/-- However many values there are, the bound on steps is not met. -/
theorem readValues_bracketed (values : List String) (rest : List Char) :
    readValues (bracketed (values.map fun value => quote value.toList) ++ rest) =
      .ok (values, rest) := by
  let items := separated true (values.map fun value => quote value.toList)
  have hbracketed : bracketed (values.map fun value => quote value.toList) ++ rest =
      '[' :: (items ++ ']' :: rest) := by
    rw [bracketed, commas_eq_separated, List.cons_append, List.append_assoc]
    rfl
  have hfuel : values.length < stepsFor (items ++ ']' :: rest) := by
    have hlength := length_le_separated true (values.map fun value => quote value.toList)
    rw [List.length_map] at hlength
    simp only [stepsFor, List.length_append, List.length_cons, items]
    omega
  have hread := readTexts_separated values hfuel true rest
  rw [hbracketed]
  show (readTexts (stepsFor (items ++ ']' :: rest)) true (items ++ ']' :: rest) >>= _) = _
  rw [hread]
  rfl

/-! ### Members -/

/-- The text behind a name sets its field. -/
def Sets (name : String) (value : List Char) (before after : Fields) : Prop :=
  ∀ rest, EndsNumber rest → readField before name (':' :: (value ++ rest)) = .ok (after, rest)

theorem readColon_cons (cs : List Char) : readColon (':' :: cs) = .ok cs := rfl

section Sets

variable {fields : Fields}

theorem sets_success (h : fields.success = none) (b : Bool) :
    Sets "success" (flagText b) fields { fields with success := some b } := by
  intro rest _
  simp [readField, h, readColon_cons, readFlag_flagText, bind, Except.bind, pure, Except.pure]

theorem sets_code (h : fields.code = none) (n : Int32) :
    Sets "code" (intDigits n.toInt) fields { fields with code := some n } := by
  intro rest hrest
  simp [readField, h, readColon_cons, readCode_intDigits n hrest, bind, Except.bind, pure,
    Except.pure]

theorem sets_message (h : fields.message = none) (s : String) :
    Sets "message" (quote s.toList) fields { fields with message := some s } := by
  intro rest _
  simp [readField, h, readColon_cons, readText_quote, bind, Except.bind, pure, Except.pure]

theorem sets_values (h : fields.values = none) (values : List String) :
    Sets "values" (bracketed (values.map fun value => quote value.toList)) fields
      { fields with values := some values } := by
  intro rest _
  simp [readField, h, readColon_cons, readValues_bracketed, bind, Except.bind, pure, Except.pure]

end Sets

/-- The texts of members turn the fields read so far into others, each setting its own. -/
inductive Builds : List (List Char) → Fields → Fields → Prop
  | nil (fields : Fields) : Builds [] fields fields
  | cons {name : String} {value : List Char} {before between after : Fields}
      {more : List (List Char)} (h : Sets name value before between)
      (hmore : Builds more between after) : Builds (member name value :: more) before after

/-- Members are read one after another, also behind others. -/
theorem Builds.readFields {members : List (List Char)} {before after : Fields}
    (h : Builds members before after) {fuel : Nat} (hfuel : members.length < fuel)
    (isFirst : Bool) (rest : List Char) :
    readFields fuel isFirst before (separated isFirst members ++ '\x7d' :: rest) =
      .ok (after, '\x7d' :: rest) := by
  -- Member by member, in the order in which they set their fields.
  induction h generalizing fuel isFirst with
  | nil fields =>
    obtain ⟨fuel, rfl⟩ : ∃ k, fuel = k + 1 := ⟨fuel - 1, by omega⟩
    rw [Outcome.readFields, separated, List.nil_append, nextName_brace]
    rfl
  | @cons name value before between after more hset _ ih =>
    obtain ⟨fuel, rfl⟩ : ∃ k, fuel = k + 1 := ⟨fuel - 1, by omega⟩
    let behind := separated false more ++ '\x7d' :: rest
    have hname : readTextBody (name.toList.flatMap escapeChar ++ '"' :: ':' :: (value ++ behind)) =
        .ok (name.toList, ':' :: (value ++ behind)) := readTextBody_escaped _ _
    have hfield : readField before name (':' :: (value ++ behind)) = .ok (between, behind) :=
      hset behind (endsNumber_separated more rest)
    have hmore : Outcome.readFields fuel false between behind = _ :=
      ih (by simpa using hfuel) false
    have hmember : member name value =
        '"' :: (name.toList.flatMap escapeChar ++ '"' :: ':' :: value) := by
      simp [member, quote]
    rw [Outcome.readFields, separated, List.append_assoc, hmember, nextName_quoted]
    simp only [bind, Except.bind, if_true, List.append_assoc, List.cons_append]
    rw [hname]
    simp only [String.ofList_toList]
    rw [hfield]
    exact hmore

/-! ### The whole text -/

/-- The members that an outcome is written with. -/
def members (outcome : Outcome) : List (List Char) :=
  [member "success" (flagText outcome.success),
   member "code" (intDigits outcome.code.toInt),
   member "message" (quote outcome.message.toList),
   member "values" (bracketed (outcome.values.map fun value => quote value.toList))]

/-- An outcome is written as its members with commas between them, in braces. -/
theorem toList_toJson (outcome : Outcome) :
    outcome.toJson.toList = '\x7b' :: (separated true outcome.members ++ ['\x7d']) := by
  rw [toJson, String.toList_ofList, braced, commas_eq_separated]
  rfl

/-- The members of an outcome set every field. -/
theorem builds_members (outcome : Outcome) :
    Builds outcome.members {}
      ⟨some outcome.success, some outcome.code, some outcome.message, some outcome.values⟩ :=
  .cons (sets_success rfl outcome.success) <| .cons (sets_code rfl outcome.code) <|
    .cons (sets_message rfl outcome.message) <| .cons (sets_values rfl outcome.values) <| .nil _

/-- An outcome is read from its text, whatever stands behind it. -/
theorem read_toJson (outcome : Outcome) (rest : List Char) :
    read (outcome.toJson.toList ++ rest) = .ok (outcome, rest) := by
  let body := separated true outcome.members ++ '\x7d' :: rest
  have htext : outcome.toJson.toList ++ rest = '\x7b' :: body := by
    simp [toList_toJson, body]
  have hfuel : outcome.members.length < stepsFor body := by
    have hlength := length_le_separated true outcome.members
    simp only [stepsFor, body, List.length_append, List.length_cons]
    omega
  have hfields := outcome.builds_members.readFields hfuel true rest
  rw [htext]
  show (readFields (stepsFor body) true {} body >>= _) = _
  rw [hfields]
  rfl

/-- **What is written of an outcome is read as this outcome.** -/
theorem ofJson_toJson (outcome : Outcome) : ofJson outcome.toJson = .ok outcome := by
  have hread := outcome.read_toJson []
  rw [List.append_nil] at hread
  rw [ofJson, hread]
  rfl

end Outcome

end TelescopeLink
