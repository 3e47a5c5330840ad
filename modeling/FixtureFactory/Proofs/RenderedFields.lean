import FixtureFactory.Proofs.BuiltUnits
import FixtureFactory.Rendering

/-!
# The fields of a rendered factory

The text of a factory lists its fields four times: where the argument record is declared, where its
default value is made, where the factory takes a record apart, and where it makes the result.  The
first two write a field on each line, the last two write all of them on one line, and a factory
without fields is written in a fourth way, so the lists come from different parts of the program.

`FactoryText` is what a reader sees in such a text, with a list for each of the four places, and
`FactoryText.text` is how it is written, line by line.  Nothing in `FactoryText` makes the four
lists agree.

* `FactoryText.eq_of_text_eq`: the text determines the lists, unless something in it breaks a line
  or a field is named by a text that could not be a name.
* `FunctionSpec.render_eq_text`: the text of a factory, line by line.
* `BuildContext.rendered_fields_agree`: the four lists of a factory that has been built agree.
-/

namespace FixtureFactory

/-! ## Lines -/

/-- The text of some lines, a line break after each. -/
def textOfLines (lines : List String) : String := String.join (lines.map (· ++ "\n"))

theorem textOfLines_nil : textOfLines [] = "" := rfl

theorem textOfLines_cons (line : String) (lines : List String) :
    textOfLines (line :: lines) = line ++ "\n" ++ textOfLines lines := by
  rw [textOfLines, List.map_cons, String.join_cons, textOfLines]

theorem textOfLines_append (lines lines' : List String) :
    textOfLines (lines ++ lines') = textOfLines lines ++ textOfLines lines' := by
  rw [textOfLines, List.map_append, String.join_append, textOfLines, textOfLines]

theorem textOfLines_cons_ne_nil (line : String) (lines : List String) :
    textOfLines (line :: lines) ≠ textOfLines [] := by
  intro h
  have hchars := congrArg String.toList h
  simp [textOfLines] at hchars

/-- A text that does not break a line. -/
def IsOneLine (text : String) : Prop := '\n' ∉ text.toList

theorem isOneLine_append {text text' : String} :
    IsOneLine (text ++ text') ↔ IsOneLine text ∧ IsOneLine text' := by
  rw [IsOneLine, IsOneLine, IsOneLine, String.toList_append, List.mem_append, not_or]

/-- What stands before the first occurrence of something, and what stands behind it. -/
theorem eq_of_append_cons_eq {α : Type} {x : α} : ∀ {before before' after after' : List α},
    x ∉ before → x ∉ before' → before ++ x :: after = before' ++ x :: after' →
      before = before' ∧ after = after'
  | [], [], _, _, _, _, h => ⟨rfl, (List.cons.inj h).2⟩
  | [], y :: _, _, _, _, hbefore', h =>
      absurd ((List.cons.inj h).1 ▸ List.mem_cons_self) hbefore'
  | y :: _, [], _, _, hbefore, _, h =>
      absurd ((List.cons.inj h).1 ▸ List.mem_cons_self) hbefore
  | y :: before, y' :: before', _, _, hbefore, hbefore', h => by
      obtain ⟨hy, h⟩ := List.cons.inj h
      obtain ⟨hrest, hafter⟩ := eq_of_append_cons_eq (fun hx => hbefore (List.mem_cons_of_mem _ hx))
        (fun hx => hbefore' (List.mem_cons_of_mem _ hx)) h
      exact ⟨by rw [hy, hrest], hafter⟩

/-- **The lines of a text** are determined by it. -/
theorem eq_of_textOfLines_eq : ∀ {lines lines' : List String},
    (∀ line ∈ lines, IsOneLine line) → (∀ line ∈ lines', IsOneLine line) →
      textOfLines lines = textOfLines lines' → lines = lines'
  | [], [], _, _, _ => rfl
  | [], line :: lines', _, _, h => absurd h.symm (textOfLines_cons_ne_nil line lines')
  | line :: lines, [], _, _, h => absurd h (textOfLines_cons_ne_nil line lines)
  | line :: lines, line' :: lines', hlines, hlines', h => by
      rw [List.forall_mem_cons] at hlines hlines'
      have hchars := congrArg String.toList h
      simp only [textOfLines_cons, String.toList_append, List.append_assoc] at hchars
      obtain ⟨hline, hrest⟩ := eq_of_append_cons_eq hlines.1 hlines'.1 hchars
      rw [String.toList_inj.mp hline,
        eq_of_textOfLines_eq hlines.2 hlines'.2 (String.toList_inj.mp hrest)]

/-! ## Fields -/

/-- A field with what is said of it, on a line of its own. -/
def memberLine (opening : String) (field : String × String) : String :=
  opening ++ field.1 ++ ": " ++ field.2 ++ ","

/-- A record over several lines, or on one line where it has no fields. -/
def recordLines (opening : String) (fields : List String) (closing : String) : List String :=
  if fields.isEmpty then [opening ++ " \x7b\x7d"]
  else (opening ++ " \x7b") :: (fields ++ [closing])

theorem textOfLines_recordLines (opening : String) (fields : List String) (closing : String) :
    textOfLines (recordLines opening fields closing) =
      if fields.isEmpty then opening ++ " \x7b\x7d\n"
      else opening ++ " \x7b\n" ++ textOfLines fields ++ closing ++ "\n" := by
  unfold recordLines
  split
  · simp [← String.toList_inj, textOfLines]
  · simp [← String.toList_inj, textOfLines]

/-- A text that can name a field: it has no character that ends a name. -/
def IsFieldName (name : String) : Prop := ∀ c ∈ ['\n', ':', ','], c ∉ name.toList

theorem IsFieldName.isOneLine {name : String} (h : IsFieldName name) : IsOneLine name :=
  h '\n' (by simp)

theorem eq_of_memberLine_eq {opening : String} {field field' : String × String}
    (hname : IsFieldName field.1) (hname' : IsFieldName field'.1)
    (h : memberLine opening field = memberLine opening field') : field = field' := by
  have hcolon := hname ':' (by simp)
  have hcolon' := hname' ':' (by simp)
  have hchars := congrArg String.toList h
  simp only [memberLine, String.toList_append, List.append_assoc] at hchars
  obtain ⟨hfirst, hrest⟩ := eq_of_append_cons_eq hcolon hcolon' (List.append_cancel_left hchars)
  refine Prod.ext (String.toList_inj.mp hfirst) (String.toList_inj.mp ?_)
  exact List.append_cancel_right (List.cons.inj hrest).2

theorem eq_of_map_memberLine_eq {opening : String} : ∀ {fields fields' : List (String × String)},
    (∀ field ∈ fields, IsFieldName field.1) → (∀ field ∈ fields', IsFieldName field.1) →
      fields.map (memberLine opening) = fields'.map (memberLine opening) → fields = fields'
  | [], [], _, _, _ => rfl
  | [], _ :: _, _, _, h => by cases h
  | _ :: _, [], _, _, h => by cases h
  | field :: fields, field' :: fields', hnames, hnames', h => by
      rw [List.forall_mem_cons] at hnames hnames'
      obtain ⟨hfield, hfields⟩ := List.cons.inj h
      rw [eq_of_memberLine_eq hnames.1 hnames'.1 hfield,
        eq_of_map_memberLine_eq hnames.2 hnames'.2 hfields]

theorem notMem_map_memberLine {opening closing : String}
    (h : ¬ opening.toList <+: closing.toList) (fields : List (String × String)) :
    closing ∉ fields.map (memberLine opening) := by
  rw [List.mem_map]
  rintro ⟨field, -, rfl⟩
  refine h ?_
  rw [memberLine, String.append_assoc, String.append_assoc, String.append_assoc,
    String.toList_append]
  exact List.prefix_append _ _

theorem append_open_ne (opening opening' : String) :
    opening ++ " \x7b\x7d" ≠ opening' ++ " \x7b" := by
  intro h
  have hlast := congrArg (fun text => text.toList.getLast?) h
  simp [String.toList_append] at hlast

theorem recordLines_cons_append (opening field : String) (fields : List String) (closing : String)
    (rest : List String) : recordLines opening (field :: fields) closing ++ rest =
      (opening ++ " \x7b") :: (field :: fields ++ closing :: rest) := by
  rw [recordLines, List.isEmpty_cons, if_neg Bool.false_ne_true, List.cons_append,
    List.append_assoc, List.singleton_append]

/-- **A record over several lines** shows how it begins, its fields and what comes after it. -/
theorem eq_of_recordLines_append_eq {opening opening' closing : String}
    {fields fields' rest rest' : List String} (hfields : closing ∉ fields)
    (hfields' : closing ∉ fields')
    (h : recordLines opening fields closing ++ rest =
      recordLines opening' fields' closing ++ rest') :
    opening = opening' ∧ fields = fields' ∧ rest = rest' := by
  cases fields with
  | nil =>
      cases fields' with
      | nil =>
          obtain ⟨hopening, hrest⟩ := List.cons.inj h
          exact ⟨(String.append_left_inj _).mp hopening, rfl, hrest⟩
      | cons _ _ => exact absurd (List.cons.inj h).1 (append_open_ne _ _)
  | cons _ _ =>
      cases fields' with
      | nil => exact absurd (List.cons.inj h).1.symm (append_open_ne _ _)
      | cons _ _ =>
          rw [recordLines_cons_append, recordLines_cons_append] at h
          obtain ⟨hopening, hlines⟩ := List.cons.inj h
          obtain ⟨hsame, hrest⟩ := eq_of_append_cons_eq hfields hfields' hlines
          exact ⟨(String.append_left_inj _).mp hopening, hsame, hrest⟩

/-- Names with a comma between them are determined by the text, if they have no commas. -/
theorem eq_of_intercalate_eq : ∀ {name name' : String} {names names' : List String},
    (∀ n ∈ name :: names, IsFieldName n) → (∀ n ∈ name' :: names', IsFieldName n) →
      ", ".intercalate (name :: names) = ", ".intercalate (name' :: names') →
        name :: names = name' :: names'
  | name, name', [], [], _, _, h => by
      rw [String.intercalate_singleton, String.intercalate_singleton] at h
      rw [h]
  | name, name', [], next' :: names', hnames, _, h => by
      rw [String.intercalate_singleton, String.intercalate_cons_cons] at h
      refine absurd ?_ (hnames name List.mem_cons_self ',' (by simp))
      rw [h]
      simp
  | name, name', next :: names, [], _, hnames', h => by
      rw [String.intercalate_singleton, String.intercalate_cons_cons] at h
      refine absurd ?_ (hnames' name' List.mem_cons_self ',' (by simp))
      rw [← h]
      simp
  | name, name', next :: names, next' :: names', hnames, hnames', h => by
      rw [List.forall_mem_cons] at hnames hnames'
      rw [String.intercalate_cons_cons, String.intercalate_cons_cons] at h
      have hchars := congrArg String.toList h
      simp only [String.toList_append, List.append_assoc] at hchars
      obtain ⟨hname, hrest⟩ := eq_of_append_cons_eq (hnames.1 ',' (by simp))
        (hnames'.1 ',' (by simp)) hchars
      rw [String.toList_inj.mp hname, eq_of_intercalate_eq hnames.2 hnames'.2
        (String.toList_inj.mp (List.cons.inj hrest).2)]

/-- **A record on one line** shows its fields. -/
theorem eq_of_recordLiteral_eq {path : String} {names names' : List String}
    (hnames : ∀ name ∈ names, IsFieldName name) (hnames' : ∀ name ∈ names', IsFieldName name)
    (h : recordLiteral path names = recordLiteral path names') : names = names' := by
  unfold recordLiteral at h
  cases names with
  | nil =>
      cases names' with
      | nil => rfl
      | cons _ _ =>
          have hchars := congrArg String.toList h
          simp at hchars
  | cons name names =>
      cases names' with
      | nil =>
          have hchars := congrArg String.toList h
          simp at hchars
      | cons name' names' =>
          simp only [List.isEmpty_cons, Bool.false_eq_true, if_false] at h
          refine eq_of_intercalate_eq hnames hnames' ?_
          simpa using h

theorem isOneLine_intercalate : ∀ {names : List String}, (∀ name ∈ names, IsOneLine name) →
    IsOneLine (", ".intercalate names)
  | [], _ => by simp [IsOneLine]
  | [name], h => by
      rw [String.intercalate_singleton]
      exact h name List.mem_cons_self
  | name :: next :: names, h => by
      rw [List.forall_mem_cons] at h
      rw [String.intercalate_cons_cons, isOneLine_append, isOneLine_append]
      exact ⟨⟨h.1, by simp [IsOneLine]⟩, isOneLine_intercalate h.2⟩

theorem isOneLine_recordLiteral {path : String} (hpath : IsOneLine path) {names : List String}
    (hnames : ∀ name ∈ names, IsFieldName name) : IsOneLine (recordLiteral path names) := by
  have hinside := isOneLine_intercalate fun name hname => (hnames name hname).isOneLine
  unfold recordLiteral
  split
  · exact isOneLine_append.mpr ⟨hpath, by simp [IsOneLine]⟩
  · simp only [isOneLine_append]
    exact ⟨⟨⟨hpath, by simp [IsOneLine]⟩, hinside⟩, by simp [IsOneLine]⟩

theorem isOneLine_memberLine {opening : String} (hopening : IsOneLine opening)
    {field : String × String} (hfield : IsFieldName field.1 ∧ IsOneLine field.2) :
    IsOneLine (memberLine opening field) := by
  simp only [memberLine, isOneLine_append]
  exact ⟨⟨⟨⟨hopening, hfield.1.isOneLine⟩, by simp [IsOneLine]⟩, hfield.2⟩, by simp [IsOneLine]⟩

theorem forall_mem_recordLines {opening closing : String} {fields : List String}
    (hopening : IsOneLine opening) (hfields : ∀ field ∈ fields, IsOneLine field)
    (hclosing : IsOneLine closing) :
    ∀ line ∈ recordLines opening fields closing, IsOneLine line := by
  unfold recordLines
  split
  · exact List.forall_mem_singleton.mpr (isOneLine_append.mpr ⟨hopening, by simp [IsOneLine]⟩)
  · exact List.forall_mem_cons.mpr ⟨isOneLine_append.mpr ⟨hopening, by simp [IsOneLine]⟩,
      List.forall_mem_append.mpr ⟨hfields, List.forall_mem_singleton.mpr hclosing⟩⟩

/-! ## Factories -/

/-- What the text of a factory shows. -/
@[ext]
structure FactoryText where
  name : String
  withName : String
  argsName : String
  doc : String
  returnType : String
  /-- The fields of the argument record, with their types. -/
  declared : List (String × String)
  /-- The fields of its default value, with their values. -/
  initialized : List (String × String)
  /-- The names that the argument record is taken apart into. -/
  bound : List String
  /-- The fields of the result. -/
  returned : List String

namespace FactoryText

/-- How a factory is written. -/
def lines (g : FactoryText) : List String :=
  ("/// Arguments for [`" ++ g.withName ++ "`].") ::
  (recordLines ("pub struct " ++ g.argsName) (g.declared.map (memberLine "    pub ")) "\x7d" ++
  "" ::
  ("impl Default for " ++ g.argsName ++ " \x7b") ::
  "    fn default() -> Self \x7b" ::
  (recordLines "        Self" (g.initialized.map (memberLine "            ")) "        \x7d" ++
  ["    \x7d",
   "\x7d",
   "",
   "/// " ++ g.doc,
   "pub fn " ++ g.name ++ "() -> " ++ g.returnType ++ " \x7b",
   "    " ++ g.withName ++ "(" ++ g.argsName ++ "::default())",
   "\x7d",
   "",
   "/// " ++ g.doc,
   "pub fn " ++ g.withName ++ "(args: " ++ g.argsName ++ ") -> " ++ g.returnType ++ " \x7b",
   "    let " ++ recordLiteral g.argsName g.bound ++ " = args;",
   "    " ++ recordLiteral g.returnType g.returned,
   "\x7d"]))

/-- The text of a factory. -/
def text (g : FactoryText) : String := textOfLines g.lines

/-- Nothing in a factory breaks a line, and the fields are named by what can name a field. -/
structure IsPlain (g : FactoryText) : Prop where
  items : ∀ item ∈ [g.name, g.withName, g.argsName, g.doc, g.returnType], IsOneLine item
  declared : ∀ field ∈ g.declared, IsFieldName field.1 ∧ IsOneLine field.2
  initialized : ∀ field ∈ g.initialized, IsFieldName field.1 ∧ IsOneLine field.2
  bound : ∀ name ∈ g.bound, IsFieldName name
  returned : ∀ name ∈ g.returned, IsFieldName name

variable {g g' : FactoryText}

theorem IsPlain.isOneLine (hg : g.IsPlain) : ∀ line ∈ g.lines, IsOneLine line := by
  have hitems := hg.items
  simp only [List.forall_mem_cons] at hitems
  obtain ⟨hname, hwith, hargs, hdoc, hreturn, -⟩ := hitems
  have hdeclared : ∀ line ∈ recordLines ("pub struct " ++ g.argsName)
      (g.declared.map (memberLine "    pub ")) "\x7d", IsOneLine line :=
    forall_mem_recordLines (isOneLine_append.mpr ⟨by simp [IsOneLine], hargs⟩)
      (List.forall_mem_map.mpr fun field hfield =>
        isOneLine_memberLine (by simp [IsOneLine]) (hg.declared field hfield))
      (by simp [IsOneLine])
  have hinitialized : ∀ line ∈ recordLines "        Self"
      (g.initialized.map (memberLine "            ")) "        \x7d", IsOneLine line :=
    forall_mem_recordLines (by simp [IsOneLine])
      (List.forall_mem_map.mpr fun field hfield =>
        isOneLine_memberLine (by simp [IsOneLine]) (hg.initialized field hfield))
      (by simp [IsOneLine])
  have hbound := isOneLine_recordLiteral hargs hg.bound
  have hreturned := isOneLine_recordLiteral hreturn hg.returned
  simp only [lines, List.forall_mem_cons, List.forall_mem_append, isOneLine_append]
  simp only [hbound, hreturned, hname, hwith, hargs, hdoc, hreturn]
  simpa [IsOneLine] using And.intro hdeclared hinitialized

/-- **The text of a factory determines what it shows.** -/
theorem eq_of_text_eq (hg : g.IsPlain) (hg' : g'.IsPlain) (h : g.text = g'.text) : g = g' := by
  have hlines := eq_of_textOfLines_eq hg.isOneLine hg'.isOneLine h
  obtain ⟨hwith, hlines⟩ := List.cons.inj hlines
  obtain ⟨hargs, hdeclared, hlines⟩ := eq_of_recordLines_append_eq
    (notMem_map_memberLine (by decide) _) (notMem_map_memberLine (by decide) _) hlines
  simp only [List.cons.injEq] at hlines
  obtain ⟨-, -, -, hlines⟩ := hlines
  obtain ⟨-, hinitialized, hlines⟩ := eq_of_recordLines_append_eq
    (notMem_map_memberLine (by decide) _) (notMem_map_memberLine (by decide) _) hlines
  simp only [List.cons.injEq] at hlines
  obtain ⟨-, -, -, hdoc, hplain, -, -, -, -, hfactory, hbound, hreturned, -⟩ := hlines
  have hwith : g.withName = g'.withName := by simpa using hwith
  have hargs : g.argsName = g'.argsName := by simpa using hargs
  have hdoc : g.doc = g'.doc := by simpa using hdoc
  have hreturn : g.returnType = g'.returnType := by simpa [hwith, hargs] using hfactory
  have hname : g.name = g'.name := by simpa [hreturn] using hplain
  have hbound : recordLiteral g.argsName g.bound = recordLiteral g.argsName g'.bound := by
    simpa [hargs] using hbound
  have hreturned : recordLiteral g.returnType g.returned =
      recordLiteral g.returnType g'.returned := by simpa [hreturn] using hreturned
  exact FactoryText.ext hname hwith hargs hdoc hreturn
    (eq_of_map_memberLine_eq (fun field hfield => (hg.declared field hfield).1)
      (fun field hfield => (hg'.declared field hfield).1) hdeclared)
    (eq_of_map_memberLine_eq (fun field hfield => (hg.initialized field hfield).1)
      (fun field hfield => (hg'.initialized field hfield).1) hinitialized)
    (eq_of_recordLiteral_eq hg.bound hg'.bound hbound)
    (eq_of_recordLiteral_eq hg.returned hg'.returned hreturned)

/-- What the text of a factory shows if it shows what the factory has. -/
def ofSpec (f : FunctionSpec) : FactoryText where
  name := f.name
  withName := f.withName
  argsName := f.argsName
  doc := f.doc
  returnType := f.returnType
  declared := f.parameters.map fun p => (p.name, p.type)
  initialized := f.parameters.map fun p => (p.name, p.default)
  bound := f.parameterNames
  returned := f.parameterNames

end FactoryText

/-! ## Rendering -/

namespace FunctionSpec

theorem join_fieldLine (ps : List ParameterSpec) :
    String.join (ps.map FunctionSpec.fieldLine) =
      textOfLines ((ps.map fun p => (p.name, p.type)).map
        (memberLine "    pub ")) := by
  rw [List.map_map, textOfLines, List.map_map]
  refine congrArg String.join (List.map_congr_left fun p _ => ?_)
  unfold FunctionSpec.fieldLine
  simp [← String.toList_inj, indentation, memberLine]

theorem join_defaultLine (ps : List ParameterSpec) :
    String.join (ps.map FunctionSpec.defaultLine) =
      textOfLines ((ps.map fun p => (p.name, p.default)).map
        (memberLine "            ")) := by
  rw [List.map_map, textOfLines, List.map_map]
  refine congrArg String.join (List.map_congr_left fun p _ => ?_)
  unfold FunctionSpec.defaultLine
  simp [← String.toList_inj, indentation, memberLine]

theorem argsRecord_eq (f : FunctionSpec) :
    f.argsRecord = textOfLines (("/// Arguments for [`" ++ f.withName ++ "`].") ::
      recordLines ("pub struct " ++ f.argsName) ((FactoryText.ofSpec f).declared.map
        (memberLine "    pub ")) "\x7d") := by
  unfold argsRecord
  rw [join_fieldLine, textOfLines_cons, textOfLines_recordLines, List.isEmpty_map,
    FactoryText.ofSpec, List.isEmpty_map]
  split
  · simp [← String.toList_inj]
  · simp [← String.toList_inj]

theorem defaults_eq (f : FunctionSpec) :
    f.defaults = textOfLines (("impl Default for " ++ f.argsName ++ " \x7b") ::
      "    fn default() -> Self \x7b" ::
      (recordLines "        Self" ((FactoryText.ofSpec f).initialized.map
        (memberLine "            ")) "        \x7d" ++ ["    \x7d", "\x7d"])) := by
  unfold defaults defaultBody
  rw [join_defaultLine, textOfLines_cons, textOfLines_cons, textOfLines_append,
    textOfLines_recordLines, List.isEmpty_map, FactoryText.ofSpec, List.isEmpty_map]
  split
  · simp [← String.toList_inj, textOfLines, indentation]
  · simp [← String.toList_inj, textOfLines, indentation]

theorem plainFactory_eq (f : FunctionSpec) :
    f.plainFactory = textOfLines
      ["/// " ++ f.doc,
       "pub fn " ++ f.name ++ "() -> " ++ f.returnType ++ " \x7b",
       "    " ++ f.withName ++ "(" ++ f.argsName ++ "::default())",
       "\x7d"] := by
  unfold plainFactory
  simp [← String.toList_inj, textOfLines, indentation]

theorem withFactory_eq (f : FunctionSpec) :
    f.withFactory = textOfLines
      ["/// " ++ f.doc,
       "pub fn " ++ f.withName ++ "(args: " ++ f.argsName ++ ") -> " ++ f.returnType ++ " \x7b",
       "    let " ++ recordLiteral f.argsName f.parameterNames ++ " = args;",
       "    " ++ f.body,
       "\x7d"] := by
  unfold withFactory
  simp [← String.toList_inj, textOfLines, indentation]

/-- **The text of a factory**, if its result is made from its arguments. -/
theorem render_eq_text {f : FunctionSpec}
    (hbody : f.body = recordLiteral f.returnType f.parameterNames) :
    f.render = (FactoryText.ofSpec f).text := by
  unfold render
  rw [argsRecord_eq, defaults_eq, plainFactory_eq, withFactory_eq, hbody]
  unfold FactoryText.text FactoryText.lines
  simp only [textOfLines_nil, textOfLines_cons, textOfLines_append, String.append_assoc,
    String.empty_append, FactoryText.ofSpec]

end FunctionSpec

/-- The texts of some factories in a unit, one by one. -/
def factoryTexts : List FunctionSpec → String
  | [] => ""
  | f :: fs => "\n" ++ f.render ++ factoryTexts fs

theorem factoryTexts_append (fs fs' : List FunctionSpec) :
    factoryTexts (fs ++ fs') = factoryTexts fs ++ factoryTexts fs' := by
  induction fs with
  | nil => simp [factoryTexts]
  | cons f fs ih => simp only [List.cons_append, factoryTexts, ih, String.append_assoc]

theorem UnitSpec.render_eq (u : UnitSpec) :
    u.render = unitHeader u.sourcePath ++ factoryTexts u.functions := by
  unfold UnitSpec.render
  congr 1
  induction u.functions with
  | nil => rfl
  | cons f fs ih => rw [List.map_cons, String.join_cons, ih, factoryTexts]

namespace BuildContext

open Build

variable {c : BuildContext}

/-- The arguments of a factory: one for each parameter, with the values that are generated one after
another. -/
theorem run_mapM_parameterSpec {ps : List Parameter} {specs : List ParameterSpec}
    {s s' : RandomSource} (h : (ps.mapM c.parameterSpec).run s = (.ok specs, s')) :
    (ps.mapM (DefaultValue.generate c.randomize c.adapters)).run s =
        (.ok (specs.map (·.default)), s') ∧
      specs.map (fun p => (p.name, p.type)) = ps.map fun p => (p.name, p.type.render) := by
  induction ps generalizing specs s with
  | nil =>
      cases h
      exact ⟨rfl, rfl⟩
  | cons p ps ih =>
      rw [List.mapM_cons, run_bind, parameterSpec, run_bind] at h
      rw [List.mapM_cons, run_bind]
      rcases hvalue : (DefaultValue.generate c.randomize c.adapters p).run s with ⟨e | value, s₁⟩
      · rw [hvalue] at h
        cases h
      · rw [hvalue] at h
        change ((ps.mapM c.parameterSpec >>= _).run s₁) = _ at h
        rw [run_bind] at h
        rcases hrest : (ps.mapM c.parameterSpec).run s₁ with ⟨e | rest, s₂⟩
        · rw [hrest] at h
          cases h
        · rw [hrest] at h
          cases h
          obtain ⟨hvalues, hshapes⟩ := ih hrest
          refine ⟨?_, congrArg _ hshapes⟩
          show ((ps.mapM (DefaultValue.generate c.randomize c.adapters) >>= _).run s₁) = _
          rw [run_bind, hvalues]
          rfl

/-- What is built is the factory of the fixture with such arguments. -/
theorem run_buildFunction {f : Fixture} {fn : FunctionSpec} {s s' : RandomSource}
    (h : (c.buildFunction f).run s = (.ok fn, s')) :
    ∃ specs, (f.parameters.mapM c.parameterSpec).run s = (.ok specs, s') ∧
      fn = functionOf f specs := by
  rw [buildFunction, run_bind] at h
  rcases hspecs : (f.parameters.mapM c.parameterSpec).run s with ⟨e | specs, s₁⟩
  · rw [hspecs] at h
    cases h
  · rw [hspecs] at h
    cases h
    exact ⟨specs, rfl, rfl⟩

end BuildContext

/-- A text shows the fields of a fixture in all four places, with their types where they are
declared and their defaults where they are initialized. -/
structure FactoryText.ShowsFields (g : FactoryText) (ps : List Parameter) (defaults : List String) :
    Prop where
  declared_names : g.declared.map Prod.fst = ps.map Parameter.name
  declared_types : g.declared.map Prod.snd = ps.map fun p => p.type.render
  initialized_names : g.initialized.map Prod.fst = ps.map Parameter.name
  initialized_values : g.initialized.map Prod.snd = defaults
  bound : g.bound = ps.map Parameter.name
  returned : g.returned = ps.map Parameter.name

/-- A factory whose arguments have the names and types of parameters shows their fields. -/
theorem FactoryText.showsFields_ofSpec {fn : FunctionSpec} {ps : List Parameter}
    (h : fn.parameters.map (fun p => (p.name, p.type)) = ps.map fun p => (p.name, p.type.render)) :
    (ofSpec fn).ShowsFields ps (fn.parameters.map (·.default)) := by
  have hnames : fn.parameters.map (·.name) = ps.map Parameter.name := by
    have hfirst := congrArg (List.map Prod.fst) h
    rwa [List.map_map, List.map_map] at hfirst
  have htypes : fn.parameters.map (·.type) = ps.map fun p => p.type.render := by
    have hsecond := congrArg (List.map Prod.snd) h
    rwa [List.map_map, List.map_map] at hsecond
  refine ⟨?_, ?_, ?_, ?_, hnames, hnames⟩
  · rw [ofSpec, List.map_map]
    exact hnames
  · rw [ofSpec, List.map_map]
    exact htypes
  · rw [ofSpec, List.map_map]
    exact hnames
  · rw [ofSpec, List.map_map]
    rfl

namespace BuildContext

/-- **A rendered factory treats its fields alike.**  Whatever a factory that has been built is named
and documented by, its text shows the parameters of the fixture, in their order, in each of the four
places, and in a text without odd line breaks and names there is nothing else to be seen.  In a unit
the text stands as it is, between the texts of the other factories.

The four places are the members of the record of arguments, their defaults, the names that the
record is taken apart into, and the members of the result. -/
theorem rendered_fields_agree {c : BuildContext} {f : Fixture} {fn : FunctionSpec}
    {s s' : RandomSource} (h : (c.buildFunction f).run s = (.ok fn, s')) :
    (∃ (defaults : List String) (g : FactoryText),
      (f.parameters.mapM (DefaultValue.generate c.randomize c.adapters)).run s =
        (.ok defaults, s') ∧
      fn.render = g.text ∧ g.ShowsFields f.parameters defaults ∧
      (g.IsPlain → ∀ g' : FactoryText, g'.IsPlain → g'.text = fn.render → g' = g) ∧
      ∀ (u : UnitSpec) (before after : List FunctionSpec), u.functions = before ++ fn :: after →
        u.render = unitHeader u.sourcePath ++ factoryTexts before ++ "\n" ++ g.text ++
          factoryTexts after) ∧
    ∀ u : UnitSpec, u.render = unitHeader u.sourcePath ++ factoryTexts u.functions := by
  obtain ⟨specs, hspecs, hfn⟩ := run_buildFunction h
  obtain ⟨hdefaults, hshapes⟩ := run_mapM_parameterSpec hspecs
  have hparameters : fn.parameters = specs := by rw [hfn, functionOf]
  have htext : fn.render = (FactoryText.ofSpec fn).text :=
    FunctionSpec.render_eq_text (by rw [hfn]; rfl)
  rw [← hparameters] at hdefaults hshapes
  refine ⟨⟨_, FactoryText.ofSpec fn, hdefaults, htext, FactoryText.showsFields_ofSpec hshapes,
    fun hplain g' hplain' htext' => FactoryText.eq_of_text_eq hplain' hplain (htext'.trans htext),
    ?_⟩, UnitSpec.render_eq⟩
  intro u before after hu
  rw [u.render_eq, hu, factoryTexts_append, factoryTexts, htext]
  simp only [String.append_assoc]

/-- A fixture with a field that is an option. -/
def ticket : Fixture :=
  { qualifiedName := "crate::Ticket"
    simpleName := "Ticket"
    enclosing := []
    unit := 0
    type := .named "crate::Ticket"
    parameters :=
      [⟨"seat", .named "crate::Seat", .enumeration ["Aisle", "Window"]⟩,
       ⟨"price", .optional (.named "u32"), .primitive .int⟩]
    location := ⟨"lib.rs", 1, 12⟩ }

/-- The factory of that fixture. -/
def ticketFactory : FunctionSpec :=
  functionOf ticket
    [⟨"seat", "crate::Seat", "crate::Seat::Aisle"⟩, ⟨"price", "Option<u32>", "Some(0)"⟩]

/-- The two fields of a ticket in all four places. -/
theorem rendered_fields_agree_ticket :
    let c : BuildContext := ⟨⟨Naming.defaultRoot⟩, .empty, false⟩
    let s : RandomSource := ⟨fun _ => 0, 0⟩
    (c.buildFunction ticket).run s = (.ok ticketFactory, s) ∧
      ∃ g : FactoryText, ticketFactory.render = g.text ∧
        g.declared.map Prod.fst = ["seat", "price"] ∧
        g.initialized.map Prod.fst = ["seat", "price"] ∧
        g.bound = ["seat", "price"] ∧ g.returned = ["seat", "price"] := by
  intro c s
  have hbuilt : (c.buildFunction ticket).run s = (.ok ticketFactory, s) := rfl
  obtain ⟨⟨_, g, -, htext, hfields, -⟩, -⟩ := rendered_fields_agree hbuilt
  exact ⟨hbuilt, g, htext, hfields.declared_names, hfields.initialized_names, hfields.bound,
    hfields.returned⟩

end BuildContext
end FixtureFactory
