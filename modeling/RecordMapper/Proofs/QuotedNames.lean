import RecordMapper.Proofs.ClauseLexemes

/-! Quotation can be undone. A quoted name is read off the front of a text and what is left starts where the name ends, so
no two names are quoted alike, and a quoted key is read back part by part. -/

namespace RecordMapper
namespace Text

variable {mark : Char}

theorem scanInside_closing {after : List Char} (apart : after.head? ≠ some mark) :
    scanInside mark (mark :: after) = some ([], after) := by
  cases after with
  | nil => simp [scanInside]
  | cons next rest =>
    have other : next ≠ mark := by simpa using apart
    simp [scanInside, other]

theorem scanInside_pair (rest : List Char) :
    scanInside mark (mark :: mark :: rest) =
      (scanInside mark rest).map fun (inside, after) => (mark :: inside, after) := by
  simp [scanInside]

theorem scanInside_other {c : Char} (other : c ≠ mark) (rest : List Char) :
    scanInside mark (c :: rest) = (scanInside mark rest).map fun (inside, after) => (c :: inside, after) := by
  cases rest <;> simp [scanInside, other]

theorem scanInside_doubled (inside : List Char) {after : List Char} (apart : after.head? ≠ some mark) :
    scanInside mark (doubled mark inside ++ mark :: after) = some (inside, after) := by
  induction inside with
  | nil => exact scanInside_closing apart
  | cons c rest ih =>
    by_cases same : c = mark
    · subst same
      rw [doubled, if_pos rfl, List.cons_append, List.cons_append, scanInside_pair, ih]
      rfl
    · rw [doubled, if_neg same, List.cons_append, scanInside_other same, ih]
      rfl

theorem eq_of_scanInside {text inside after : List Char} (read : scanInside mark text = some (inside, after)) :
    text = doubled mark inside ++ mark :: after ∧ after.head? ≠ some mark := by
  fun_induction scanInside mark text generalizing inside after with
  | case1 => cases read
  | case2 =>
    cases read
    exact ⟨rfl, nofun⟩
  | case3 => cases read
  -- A pair of marks is one mark of the inside.
  | case4 rest ih =>
    obtain ⟨⟨found, left⟩, inner, same⟩ := Option.map_eq_some_iff.mp read
    cases same
    obtain ⟨text, apart⟩ := ih inner
    refine ⟨?_, apart⟩
    rw [text, doubled, if_pos rfl]
    rfl
  | case5 next rest other =>
    cases read
    refine ⟨rfl, ?_⟩
    intro same
    exact other (Option.some.inj same)
  | case6 c next rest other ih =>
    obtain ⟨⟨found, left⟩, inner, same⟩ := Option.map_eq_some_iff.mp read
    cases same
    obtain ⟨text, apart⟩ := ih inner
    refine ⟨?_, apart⟩
    rw [text, doubled, if_neg other]
    rfl

/-- What is read off the front of a text is quoted there, and the quotation goes no further. -/
theorem scan_eq_some {text inside after : List Char} :
    scan mark text = some (inside, after) ↔ text = enclosed mark inside ++ after ∧ after.head? ≠ some mark := by
  have opened : enclosed mark inside ++ after = mark :: (doubled mark inside ++ mark :: after) := by simp [enclosed]
  rw [opened]
  constructor
  · intro read
    cases text with
    | nil => cases read
    | cons first rest =>
      rw [scan] at read
      by_cases same : first = mark
      · rw [if_pos same] at read
        obtain ⟨text, apart⟩ := eq_of_scanInside read
        exact ⟨by rw [same, text], apart⟩
      · rw [if_neg same] at read
        cases read
  · rintro ⟨rfl, apart⟩
    rw [scan, if_pos rfl]
    exact scanInside_doubled inside apart

theorem scan_enclose (text : String) {after : List Char} (apart : after.head? ≠ some mark) :
    scan mark ((enclose mark text).toList ++ after) = some (text.toList, after) := by
  rw [enclose, String.toList_ofList]
  exact scan_eq_some.mpr ⟨rfl, apart⟩

theorem enclose_injective (mark : Char) : Function.Injective (enclose mark) := by
  intro first second same
  have read (text : String) := scan_enclose text (show ([] : List Char).head? ≠ some mark from nofun)
  have both := (read first).symm.trans ((congrArg (fun quoted => scan mark (quoted.toList ++ [])) same).trans (read second))
  simp only [Option.some.injEq, Prod.mk.injEq, and_true] at both
  exact String.toList_inj.mp both

theorem length_after {text inside after : List Char} (read : scan mark text = some (inside, after)) :
    after.length < text.length := by
  obtain ⟨rfl, _⟩ := scan_eq_some.mp read
  simp only [enclosed, List.length_append, List.length_cons]
  omega

/-- Reads quoted texts with points between them, to the end. -/
def scanParts (mark : Char) (text : List Char) : Option (List (List Char)) :=
  match _ : scan mark text with
  | some (part, []) => some [part]
  | some (part, '.' :: rest) => (scanParts mark rest).map (part :: ·)
  | _ => none
termination_by text.length
decreasing_by
  have shorter := length_after ‹scan mark text = some (part, '.' :: rest)›
  exact Nat.lt_of_succ_lt shorter

theorem scanParts_last (part : List Char) : scanParts mark (enclosed mark part) = some [part] := by
  have read : scan mark (enclosed mark part) = some (part, []) := scan_eq_some.mpr ⟨by simp, nofun⟩
  rw [scanParts]
  split
  next found same =>
    cases read.symm.trans same
    rfl
  next rest same => cases read.symm.trans same
  next last _ => exact (last part read).elim

theorem scanParts_point (other : '.' ≠ mark) (part rest : List Char) :
    scanParts mark (enclosed mark part ++ '.' :: rest) = (scanParts mark rest).map (part :: ·) := by
  have read : scan mark (enclosed mark part ++ '.' :: rest) = some (part, '.' :: rest) :=
    scan_eq_some.mpr ⟨rfl, by simpa using other⟩
  rw [scanParts]
  split
  next same => cases read.symm.trans same
  next same =>
    cases read.symm.trans same
    rfl
  next _ pointed => exact (pointed part rest read).elim

theorem scanParts_joined (other : '.' ≠ mark) {parts : List (List Char)} (some_ : parts ≠ []) :
    scanParts mark (['.'].intercalate (parts.map (enclosed mark))) = some parts := by
  induction parts with
  | nil => exact absurd rfl some_
  | cons part rest ih =>
    cases rest with
    | nil => simpa using scanParts_last part
    | cons next rest =>
      have inner := ih (List.cons_ne_nil _ _)
      simp only [List.map_cons] at inner ⊢
      rw [List.intercalate_cons_cons, List.append_assoc, List.singleton_append, scanParts_point other, inner]
      rfl

end Text

namespace Dialect
open Clause

variable {known : Known}

theorem quote_eq_enclose (real : known = .mysql ∨ known = .sqlite) :
    known.dialect.quote = Text.enclose known.opening := by
  rcases real with rfl | rfl <;> rfl

theorem point_ne_opening (known : Known) : '.' ≠ known.opening := by
  cases known with
  | mysql | sqlite => decide
  | numbered _ => exact (by decide : '.' ≠ '[')

theorem toList_quoteKey (dialect : Dialect) (key : String) :
    (dialect.quoteKey key).toList =
      ['.'].intercalate ((key.toList.splitOn '.').map fun part => (dialect.quote (String.ofList part)).toList) := by
  rw [quoteKey, String.toList_intercalate, List.map_map]
  rfl

/-- A quoted name is read back as it was, up to where it ends, whatever follows but for the mark itself, and nothing else is
read as a quoted name. So quotation tells names apart, and a quoted key is read back as the parts between its points. -/
theorem quotation_reversible (real : known = .mysql ∨ known = .sqlite) :
    (∀ (name : String) (after : List Char), after.head? ≠ some known.opening →
      Text.scan known.opening ((known.dialect.quote name).toList ++ after) = some (name.toList, after)) ∧
    (∀ (text : List Char) (name : String) (after : List Char),
      Text.scan known.opening text = some (name.toList, after) →
        text = (known.dialect.quote name).toList ++ after ∧ after.head? ≠ some known.opening) ∧
    Function.Injective known.dialect.quote ∧
    ∀ key : String,
      Text.scanParts known.opening (known.dialect.quoteKey key).toList = some (key.toList.splitOn '.') := by
  have quoted := quote_eq_enclose real
  refine ⟨?_, ?_, ?_, ?_⟩
  · intro name after apart
    rw [quoted]
    exact Text.scan_enclose name apart
  · intro text name after read
    rw [quoted, Text.enclose, String.toList_ofList]
    exact Text.scan_eq_some.mp read
  · rw [quoted]
    exact Text.enclose_injective known.opening
  · intro key
    have parts (part : List Char) :
        (known.dialect.quote (String.ofList part)).toList = Text.enclosed known.opening part := by
      rw [quoted, Text.enclose, String.toList_ofList, String.toList_ofList]
    simp only [toList_quoteKey, parts]
    exact Text.scanParts_joined (point_ne_opening known) (List.splitOn_ne_nil '.' key.toList)

/-- A name that ends in the mark, inside a longer text, and a key with an empty part. -/
theorem marked_name_scanned :
    let name := "my\"table\""
    let after := [' ', '"']
    (Known.sqlite = .mysql ∨ Known.sqlite = .sqlite) ∧ sqlite.quote name = "\"my\"\"table\"\"\"" ∧
      Text.scan '"' ((sqlite.quote name).toList ++ after) = some (name.toList, after) ∧
      Text.scanParts '"' (sqlite.quoteKey "a..id").toList = some [['a'], [], ['i', 'd']] := by
  intro name after
  have real : Known.sqlite = .mysql ∨ Known.sqlite = .sqlite := .inr rfl
  obtain ⟨read, _, _, parts⟩ := quotation_reversible real
  exact ⟨real, by decide +kernel, read name after (by decide), parts "a..id"⟩

end Dialect
end RecordMapper
