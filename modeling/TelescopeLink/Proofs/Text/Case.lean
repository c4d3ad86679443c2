import Mathlib.Tactic.ByContra
import TelescopeLink.Proofs.Text.Blank
import TelescopeLink.Proofs.Text.Utf8
import TelescopeLink.Text.Case

/-!
# What letter case leaves alone

A text in upper or lower case may be longer than the text itself, but it is never shorter in words:
no character is mapped to nothing, and none but a blank to a blank (`isWord_upper`, `isWord_lower`).
Nor is any character but NUL mapped to NUL, or NUL to anything else (`nul_mem_upper_iff`,
`nul_mem_lower_iff`).

What the tables say of such things is checked once for all their entries, and a mapping is taken
apart into the three ways in which it can come about (`mapCase_cases`).
-/

namespace TelescopeLink.Text

/-! ### One character -/

/-- A character is mapped by its sequence, by a run that covers it, or to itself. -/
theorem mapCase_cases (sequences : List (Nat × List Nat)) (runs : List CaseRun) (c : Char) :
    (∃ codes, (c.toNat, codes) ∈ sequences ∧
      mapCase sequences runs c = codes.map Char.ofNat) ∨
    (∃ run ∈ runs, (run.first ≤ c.toNat ∧ c.toNat ≤ run.last) ∧
      mapCase sequences runs c = [Char.ofNat (run.image c.toNat)]) ∨
    mapCase sequences runs c = [c] := by
  unfold mapCase
  split
  · rename_i codes hlookup
    obtain ⟨before, after, heq, -⟩ := List.lookup_eq_some_iff.mp hlookup
    exact Or.inl ⟨codes, by simp [heq], rfl⟩
  · split
    · rename_i run hrun
      have hcovers := List.find?_some hrun
      simp only [CaseRun.covers, Bool.and_eq_true, decide_eq_true_eq] at hcovers
      exact Or.inr (Or.inl ⟨run, List.mem_of_find?_eq_some hrun, hcovers.1, rfl⟩)
    · exact Or.inr (Or.inr rfl)

/-! ### The tables -/

/-- The codes that a list of case mappings gives are those of characters, and not NUL; and it maps
NUL to nothing else. -/
theorem sequences_nonzero : ∀ entry ∈ upperSequences ++ lowerSequences,
    entry.1 ≠ 0 ∧ ∀ code ∈ entry.2, code ≠ 0 ∧ code < 0xD800 := by
  decide +kernel

/-- So are those that runs give: all between the images of their ends. -/
theorem runs_nonzero : ∀ run ∈ upperRuns ++ lowerRuns,
    0 < run.first ∧ 0 < run.first + run.delta ∧ run.last + run.delta < 0x110000 ∧
      (run.last + run.delta < 0xD800 ∨ 0xDFFF < run.first + run.delta) := by
  decide +kernel

/-- A sequence is a word. -/
theorem isWord_sequences : ∀ entry ∈ upperSequences ++ lowerSequences,
    IsWord (entry.2.map Char.ofNat) := by
  decide +kernel

/-- A run gives no blank. -/
theorem isBlank_image_runs : ∀ run ∈ upperRuns ++ lowerRuns,
    ∀ n ∈ List.range' run.first (run.last + 1 - run.first),
      isBlank (Char.ofNat (run.image n)) = false := by
  decide +kernel

/-! ### What a mapping gives -/

/-- Only the code zero is that of NUL. -/
theorem ofNat_ne_nul {n : Nat} (hn : n ≠ 0) (hvalid : n.isValidChar) : Char.ofNat n ≠ '\x00' := by
  intro h
  have htoNat := toNat_ofNat hvalid
  rw [h] at htoNat
  exact hn htoNat.symm

section MapCase

variable {sequences : List (Nat × List Nat)} {runs : List CaseRun}
  (hsequences : sequences ⊆ upperSequences ++ lowerSequences)
  (hruns : runs ⊆ upperRuns ++ lowerRuns)
include hsequences hruns

/-- A case mapping gives NUL for NUL only. -/
theorem nul_mem_mapCase_iff {c : Char} : '\x00' ∈ mapCase sequences runs c ↔ c = '\x00' := by
  constructor
  · intro h
    by_contra hc
    rcases mapCase_cases sequences runs c with ⟨codes, hmem, heq⟩ | ⟨run, hrun, hcovers, heq⟩ | heq
    · rw [heq] at h
      obtain ⟨code, hcode, hnul⟩ := List.mem_map.mp h
      obtain ⟨hne, hlt⟩ := (sequences_nonzero _ (hsequences hmem)).2 code hcode
      exact ofNat_ne_nul hne (Or.inl hlt) hnul
    · rw [heq] at h
      obtain ⟨-, hfirst, hlast, hgap⟩ := runs_nonzero _ (hruns hrun)
      have himage : run.image c.toNat ≠ 0 ∧ (run.image c.toNat).isValidChar := by
        unfold CaseRun.image Nat.isValidChar
        omega
      exact ofNat_ne_nul himage.1 himage.2 (List.mem_singleton.mp h).symm
    · rw [heq] at h
      exact hc (List.mem_singleton.mp h).symm
  · intro hc
    subst hc
    have hlookup : sequences.lookup 0 = none := by
      rw [List.lookup_eq_none_iff]
      intro entry hentry
      simpa using (sequences_nonzero entry (hsequences hentry)).1.symm
    have hfind : runs.find? (CaseRun.covers · 0) = none := by
      rw [List.find?_eq_none]
      intro run hrun
      have hfirst := (runs_nonzero run (hruns hrun)).1
      simp [CaseRun.covers, hfirst.ne']
    have hzero : ('\x00' : Char).toNat = 0 := rfl
    unfold mapCase
    rw [hzero, hlookup]
    dsimp only
    rw [hfind]
    exact List.mem_singleton_self _

/-- A case mapping makes a word of every character but a blank. -/
theorem isWord_mapCase {c : Char} (hc : isBlank c = false) :
    IsWord (mapCase sequences runs c) := by
  rcases mapCase_cases sequences runs c with ⟨codes, hmem, heq⟩ | ⟨run, hrun, hcovers, heq⟩ | heq
  · rw [heq]
    exact isWord_sequences _ (hsequences hmem)
  · have hrange : c.toNat ∈ List.range' run.first (run.last + 1 - run.first) := by
      rw [List.mem_range'_1]
      omega
    rw [heq, isWord_cons_iff]
    exact ⟨isBlank_image_runs run (hruns hrun) _ hrange, by simp⟩
  · rw [heq, isWord_cons_iff]
    exact ⟨hc, by simp⟩

end MapCase

/-! ### Upper case -/

/-- Upper case neither makes nor loses a NUL. -/
theorem nul_mem_upper_iff {cs : List Char} : '\x00' ∈ upper cs ↔ '\x00' ∈ cs := by
  rw [upper, List.mem_flatMap]
  constructor
  · intro h
    obtain ⟨c, hc, hnul⟩ := h
    obtain rfl := (nul_mem_mapCase_iff (List.subset_append_left ..)
      (List.subset_append_left ..)).mp hnul
    exact hc
  · intro h
    exact ⟨_, h, (nul_mem_mapCase_iff (List.subset_append_left ..)
      (List.subset_append_left ..)).mpr rfl⟩

/-- No character is lost or becomes a blank in upper case. -/
theorem isWord_upperChar {c : Char} (hc : isBlank c = false) : IsWord (upperChar c) :=
  isWord_mapCase (List.subset_append_left ..) (List.subset_append_left ..) hc

/-- A word in upper case is one word. -/
theorem isWord_upper {word : List Char} (hword : IsWord word) : IsWord (upper word) := by
  constructor
  · obtain ⟨c, rest, rfl⟩ := List.exists_cons_of_ne_nil hword.1
    have hne : upperChar c ≠ [] := (isWord_upperChar (hword.2 c List.mem_cons_self)).1
    rw [upper, List.flatMap_cons]
    exact List.append_ne_nil_of_left_ne_nil hne _
  · intro d hd
    obtain ⟨c, hc, hd⟩ := List.mem_flatMap.mp hd
    exact (isWord_upperChar (hword.2 c hc)).2 d hd

/-! ### Lower case -/

theorem nul_mem_lowerAfter_iff {before cs : List Char} :
    '\x00' ∈ lowerAfter before cs ↔ '\x00' ∈ cs := by
  induction cs generalizing before with
  | nil => rfl
  | cons c cs ih =>
      -- Only for the capital sigma it matters what stands around it.
      have hchar : '\x00' ∈ (if c = 'Σ' then
          [if meetsCased before && !meetsCased cs then 'ς' else 'σ'] else lowerChar c) ↔
            c = '\x00' := by
        split
        · rename_i hsigma
          subst hsigma
          split <;> decide
        · exact nul_mem_mapCase_iff (List.subset_append_right ..) (List.subset_append_right ..)
      rw [lowerAfter, List.mem_append, hchar, ih, List.mem_cons, eq_comm]

/-- Nor does lower case. -/
theorem nul_mem_lower_iff {cs : List Char} : '\x00' ∈ lower cs ↔ '\x00' ∈ cs :=
  nul_mem_lowerAfter_iff

/-- Both forms of the small sigma are words, and so is what any other character becomes. -/
theorem isWord_lowerAfter_head {before rest : List Char} {c : Char} (hc : isBlank c = false) :
    IsWord (if c = 'Σ' then [if meetsCased before && !meetsCased rest then 'ς' else 'σ']
      else lowerChar c) := by
  split
  · rw [isWord_cons_iff]
    constructor
    · split <;> decide
    · simp
  · exact isWord_mapCase (List.subset_append_right ..) (List.subset_append_right ..) hc

/-- Nor does lower case make a blank, whatever stands before. -/
theorem isBlank_lowerAfter {cs : List Char} (hcs : ∀ c ∈ cs, isBlank c = false)
    (before : List Char) : ∀ d ∈ lowerAfter before cs, isBlank d = false := by
  induction cs generalizing before with
  | nil => simp [lowerAfter]
  | cons c cs ih =>
      intro d hd
      rcases List.mem_append.mp hd with hhead | htail
      · exact (isWord_lowerAfter_head (hcs c List.mem_cons_self)).2 d hhead
      · exact ih (fun e he => hcs e (List.mem_cons_of_mem _ he)) (c :: before) d htail

/-- A word in lower case is one word. -/
theorem isWord_lower {word : List Char} (hword : IsWord word) : IsWord (lower word) := by
  refine ⟨?_, isBlank_lowerAfter hword.2 []⟩
  obtain ⟨c, rest, rfl⟩ := List.exists_cons_of_ne_nil hword.1
  have hhead := @isWord_lowerAfter_head [] rest c (hword.2 c List.mem_cons_self)
  exact List.append_ne_nil_of_left_ne_nil hhead.1 _

end TelescopeLink.Text
