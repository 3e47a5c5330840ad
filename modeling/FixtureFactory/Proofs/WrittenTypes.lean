import FixtureFactory.Scope
import Mathlib.Data.List.Basic

/-!
# Written types

The type of a field is read twice: once where the source is indexed, as a tree of paths and
arguments, and once more by whoever compiles the generated text.  In between stands a type
reference, which has one flag for the option layer and no place for a second one.  Here the written
type is kept as a tree, with every path in its absolute form, and a type reference is read back into
such a tree, so that the two can be compared node by node.

* `ScopeTable.writtenType`: a written type with absolute paths.
* `TypeRef.toWritten`: the type that a type reference stands for, and `TypeRef.render_eq_text` its
  text.
* `ScopeTable.toWritten_resolveType`: a resolution keeps every node, except that an option directly
  in an option is lost.
* `ScopeTable.resolves_to_written`: so the rendered text is the written one exactly if there is no
  such option.
-/

namespace FixtureFactory

open Source (TypeTerm Argument)

/-! ## Plain types -/

mutual

/-- Whether a type is made of paths with type arguments on their last segment, of slices and of
parentheses. -/
def Source.TypeTerm.isStructured : TypeTerm → Bool
  | .path _ _ before args => before.isEmpty && Argument.allStructured args
  | .slice element => element.isStructured
  | .parenthesized inner => inner.isStructured
  | .unit => true
  | .other _ => false

/-- Whether all of some arguments are structured types. -/
def Source.Argument.allStructured : List Argument → Bool
  | [] => true
  | .type term :: args => term.isStructured && Argument.allStructured args
  | .other _ :: _ => false

end

/-! ## Trees with absolute paths -/

/-- A type as it is written, parentheses aside, with absolute paths. -/
inductive WrittenType where
  /-- A path, with the arguments of the segments before the last and those of the last. -/
  | path (path : String) (before args : List WrittenType)
  | option (inner : WrittenType)
  | slice (element : WrittenType)
  /-- A type without structure, or an argument that is no type, by its text. -/
  | other (text : String)
  deriving Inhabited, Repr

namespace WrittenType

/-- Whether a type is an option. -/
def isOption : WrittenType → Bool
  | option _ => true
  | _ => false

/-- A path with arguments; that of the option type with one argument is an option. -/
def ofPath (path : String) : List WrittenType → List WrittenType → WrittenType
  | [], [inner] =>
      if ScopeTable.optionPaths.contains path then .option inner else .path path [] [inner]
  | before, args => .path path before args

/-- The text of arguments, which are left out if there are none. -/
def argumentsText (args : List String) : String :=
  if args.isEmpty then "" else "<" ++ ", ".intercalate args ++ ">"

mutual

/-- The text of a type. -/
def text : WrittenType → String
  | path name before args => name ++ argumentsText (texts before) ++ argumentsText (texts args)
  | option inner => "Option<" ++ inner.text ++ ">"
  | slice element => "[" ++ element.text ++ "]"
  | other text => text

/-- The texts of some types. -/
def texts : List WrittenType → List String
  | [] => []
  | w :: ws => w.text :: texts ws

end

mutual

/-- The paths in a type, apart from those of options. -/
def paths : WrittenType → List String
  | path name before args => name :: (pathsOfAll before ++ pathsOfAll args)
  | option inner => inner.paths
  | slice element => element.paths
  | other _ => []

/-- The paths in some types. -/
def pathsOfAll : List WrittenType → List String
  | [] => []
  | w :: ws => w.paths ++ pathsOfAll ws

end

theorem mem_paths_ofPath {name path : String} {args : List WrittenType}
    (h : name ∈ pathsOfAll args) : name ∈ (ofPath path [] args).paths := by
  rcases args with _ | ⟨w, _ | ⟨w', args⟩⟩
  · cases h
  · rw [ofPath]
    split
    · rwa [pathsOfAll, pathsOfAll, List.append_nil] at h
    · exact List.mem_cons_of_mem _ h
  · exact List.mem_cons_of_mem _ h

/-- The paths of a path with arguments are that path and those in its arguments. -/
theorem of_mem_paths_ofPath {name path : String} {before args : List WrittenType}
    (h : name ∈ (ofPath path before args).paths) :
    name = path ∨ name ∈ pathsOfAll before ∨ name ∈ pathsOfAll args := by
  have hpath : ∀ before args : List WrittenType, name ∈ (WrittenType.path path before args).paths →
      name = path ∨ name ∈ pathsOfAll before ∨ name ∈ pathsOfAll args := by
    intro before args h
    rwa [paths, List.mem_cons, List.mem_append] at h
  revert h
  fun_cases ofPath path before args with
  | case1 inner hoption =>
      intro h
      refine Or.inr (Or.inr ?_)
      rwa [pathsOfAll, pathsOfAll, List.append_nil]
  | case2 inner hoption => exact hpath [] [inner]
  | case3 => exact hpath before args

/-! ## Options directly in options -/

mutual

/-- How many options stand directly in options. -/
def nestedOptions : WrittenType → Nat
  | path _ before args => nestedOptionsOfAll before + nestedOptionsOfAll args
  | option inner => inner.isOption.toNat + inner.nestedOptions
  | slice element => element.nestedOptions
  | other _ => 0

/-- How many options stand directly in options in some types. -/
def nestedOptionsOfAll : List WrittenType → Nat
  | [] => 0
  | w :: ws => w.nestedOptions + nestedOptionsOfAll ws

end

/-- The option of a type, which an option is already. -/
def joined : WrittenType → WrittenType
  | option inner => option inner
  | w => option w

mutual

/-- A type with one option in the place of options directly in one another. -/
def merged : WrittenType → WrittenType
  | path name before args => path name (mergedAll before) (mergedAll args)
  | option inner => joined inner.merged
  | slice element => slice element.merged
  | other text => other text

/-- Types with one option in the place of options directly in one another. -/
def mergedAll : List WrittenType → List WrittenType
  | [] => []
  | w :: ws => w.merged :: mergedAll ws

end

@[simp] theorem isOption_merged (w : WrittenType) : w.merged.isOption = w.isOption := by
  cases w with
  | option inner =>
      rw [merged]
      cases inner.merged <;> rfl
  | _ => rfl

theorem joined_of_not_isOption {w : WrittenType} (h : w.isOption = false) :
    w.joined = option w := by
  cases w with
  | option inner => cases h
  | _ => rfl

mutual

/-- **A type without options directly in options** stays as it is. -/
theorem merged_eq_self : ∀ {w : WrittenType}, w.nestedOptions = 0 → w.merged = w
  | path name before args, h => by
      rw [nestedOptions, Nat.add_eq_zero_iff] at h
      rw [merged, mergedAll_eq_self h.1, mergedAll_eq_self h.2]
  | option inner, h => by
      rw [nestedOptions, Nat.add_eq_zero_iff] at h
      have hinner : inner.isOption = false := by
        cases hoption : inner.isOption with
        | false => rfl
        | true =>
            rw [hoption] at h
            cases h.1
      rw [merged, merged_eq_self h.2, joined_of_not_isOption hinner]
  | slice element, h => by
      rw [nestedOptions] at h
      rw [merged, merged_eq_self h]
  | other text, _ => rfl

theorem mergedAll_eq_self : ∀ {ws : List WrittenType}, nestedOptionsOfAll ws = 0 →
    mergedAll ws = ws
  | [], _ => rfl
  | w :: ws, h => by
      rw [nestedOptionsOfAll, Nat.add_eq_zero_iff] at h
      rw [mergedAll, merged_eq_self h.1, mergedAll_eq_self h.2]

end

mutual

@[simp] theorem paths_merged : ∀ w : WrittenType, w.merged.paths = w.paths
  | path name before args => by
      rw [merged, paths, paths, pathsOfAll_mergedAll before, pathsOfAll_mergedAll args]
  | option inner => by
      have hjoined : ∀ w : WrittenType, w.joined.paths = w.paths := by
        intro w
        cases w <;> rfl
      rw [merged, hjoined, paths_merged inner, paths]
  | slice element => by rw [merged, paths, paths, paths_merged element]
  | other _ => rfl

theorem pathsOfAll_mergedAll : ∀ ws : List WrittenType, pathsOfAll (mergedAll ws) = pathsOfAll ws
  | [] => rfl
  | w :: ws => by
      rw [mergedAll, pathsOfAll, pathsOfAll, paths_merged w, pathsOfAll_mergedAll ws]

end

/-! ## Lengths of texts -/

theorem length_text_option (w : WrittenType) : (option w).text.length = w.text.length + 8 := by
  have hopen : ("Option<" : String).length = 7 := rfl
  have hclose : (">" : String).length = 1 := rfl
  rw [text, String.length_append, String.length_append]
  omega

mutual

/-- **The text of a type loses an option layer** for every option directly in an option. -/
theorem length_text_merged : ∀ w : WrittenType,
    w.merged.text.length + 8 * w.nestedOptions = w.text.length
  | path name before args => by
      have hbefore := length_argumentsText_mergedAll before
      have hargs := length_argumentsText_mergedAll args
      rw [merged, nestedOptions, text, text]
      simp only [String.length_append]
      omega
  | option inner => by
      have hinner := length_text_merged inner
      rw [nestedOptions, length_text_option]
      cases hoption : inner.isOption with
      | false =>
          have hjoined : (option inner).merged = option inner.merged :=
            joined_of_not_isOption ((isOption_merged inner).trans hoption)
          rw [hjoined, length_text_option]
          simp only [Bool.toNat_false]
          omega
      | true =>
          have hjoined : (option inner).merged = inner.merged := by
            have hmerged := (isOption_merged inner).trans hoption
            rw [merged]
            cases hform : inner.merged with
            | option w => rfl
            | _ =>
                rw [hform] at hmerged
                cases hmerged
          rw [hjoined]
          simp only [Bool.toNat_true]
          omega
  | slice element => by
      have helement := length_text_merged element
      rw [merged, nestedOptions, text, text]
      simp only [String.length_append]
      omega
  | other text => rfl

/-- So does the text of arguments. -/
theorem length_argumentsText_mergedAll : ∀ ws : List WrittenType,
    (argumentsText (texts (mergedAll ws))).length + 8 * nestedOptionsOfAll ws =
      (argumentsText (texts ws)).length
  | [] => rfl
  | [w] => by
      have hw := length_text_merged w
      simp only [mergedAll, texts, argumentsText, List.isEmpty_cons, Bool.false_eq_true, if_false,
        String.intercalate_singleton, String.length_append, nestedOptionsOfAll]
      omega
  | w :: w' :: ws => by
      have hw := length_text_merged w
      have htail := length_argumentsText_mergedAll (w' :: ws)
      simp only [mergedAll, texts, argumentsText, List.isEmpty_cons, Bool.false_eq_true, if_false,
        String.intercalate_cons_cons, String.length_append, nestedOptionsOfAll] at htail ⊢
      omega

end

/-- **The text stays as it is exactly if no option stands directly in an option.** -/
theorem text_merged_eq_iff (w : WrittenType) : w.merged.text = w.text ↔ w.nestedOptions = 0 := by
  constructor
  · intro h
    have hlength := length_text_merged w
    rw [h] at hlength
    omega
  · intro h
    rw [merged_eq_self h]

end WrittenType

/-! ## Type references -/

namespace TypeRef

/-- A type with an option layer or without. -/
def withLayer (nullable : Bool) (w : WrittenType) : WrittenType :=
  if nullable then .option w else w

/-- The type of a path with arguments; the reserved path with one argument is a slice. -/
def writtenPath (path : String) : List WrittenType → WrittenType
  | [element] => if path == slicePath then .slice element else .path path [] [element]
  | args => .path path [] args

mutual

/-- The type that a type reference stands for. -/
def toWritten : TypeRef → WrittenType
  | ⟨path, args, nullable⟩ => withLayer nullable (writtenPath path (toWrittenAll args))

/-- The types that some type references stand for. -/
def toWrittenAll : List TypeRef → List WrittenType
  | [] => []
  | t :: ts => t.toWritten :: toWrittenAll ts

end

theorem toWrittenAll_eq_map (ts : List TypeRef) : toWrittenAll ts = ts.map toWritten := by
  induction ts with
  | nil => rfl
  | cons t ts ih => rw [toWrittenAll, ih, List.map_cons]

theorem isOption_writtenPath (path : String) (args : List WrittenType) :
    (writtenPath path args).isOption = false := by
  rcases args with _ | ⟨w, _ | ⟨w', args⟩⟩
  · rfl
  · rw [writtenPath]
    cases path == slicePath <;> rfl
  · rfl

theorem mem_paths_writtenPath {name path : String} {args : List WrittenType}
    (h : name ∈ WrittenType.pathsOfAll args) : name ∈ (writtenPath path args).paths := by
  rcases args with _ | ⟨w, _ | ⟨w', args⟩⟩
  · cases h
  · rw [writtenPath]
    split
    · rwa [WrittenType.pathsOfAll, WrittenType.pathsOfAll, List.append_nil] at h
    · exact List.mem_cons_of_mem _ h
  · exact List.mem_cons_of_mem _ h

/-- **An option of a type reference** is the option of the type, which an option is already. -/
theorem toWritten_optional (t : TypeRef) : t.optional.toWritten = t.toWritten.joined := by
  obtain ⟨path, args, nullable⟩ := t
  have hform := isOption_writtenPath path (toWrittenAll args)
  rw [optional, toWritten, toWritten]
  cases nullable with
  | true => rfl
  | false => exact (WrittenType.joined_of_not_isOption hform).symm

theorem plainText_of_ne {path : String} (h : path ≠ slicePath) (args : List String) :
    plainText path args = path ++ WrittenType.argumentsText args := by
  rw [plainText, if_neg (mt beq_iff_eq.mp h), WrittenType.argumentsText]
  cases args with
  | nil => exact String.append_empty.symm
  | cons arg args =>
      simp only [List.isEmpty_cons, Bool.false_eq_true, if_false, String.append_assoc]

/-- The text of a path from the texts of its arguments, if the path is not taken for a slice. -/
theorem plainText_eq_text {path : String} {args : List WrittenType}
    (h : slicePath ∉ (writtenPath path args).paths) :
    plainText path (WrittenType.texts args) = (writtenPath path args).text := by
  by_cases hslice : path = slicePath
  · -- the path is that of slices, so it has one argument
    rcases args with _ | ⟨w, _ | ⟨w', args⟩⟩
    · exact absurd (hslice ▸ List.mem_cons_self) h
    · rw [writtenPath, if_pos (beq_iff_eq.mpr hslice), plainText, if_pos (beq_iff_eq.mpr hslice)]
      rfl
    · exact absurd (hslice ▸ List.mem_cons_self) h
  · have hpath : writtenPath path args = .path path [] args := by
      rcases args with _ | ⟨w, _ | ⟨w', args⟩⟩
      · rfl
      · rw [writtenPath, if_neg (mt beq_iff_eq.mp hslice)]
      · rfl
    rw [hpath, plainText_of_ne hslice, WrittenType.text]
    exact congrArg (· ++ _) String.append_empty.symm

mutual

/-- **The text of a type reference** is that of the type that it stands for, if no path is taken for
a slice. -/
theorem render_eq_text : ∀ {t : TypeRef}, slicePath ∉ t.toWritten.paths →
    t.render = t.toWritten.text
  | ⟨path, args, nullable⟩, h => by
      rw [toWritten] at h ⊢
      have hpaths : slicePath ∉ (writtenPath path (toWrittenAll args)).paths := by
        cases nullable <;> exact h
      rw [render, renderAll_eq_texts fun hmem => hpaths (mem_paths_writtenPath hmem),
        plainText_eq_text hpaths]
      cases nullable <;> rfl

theorem renderAll_eq_texts : ∀ {ts : List TypeRef},
    slicePath ∉ WrittenType.pathsOfAll (toWrittenAll ts) →
      renderAll ts = WrittenType.texts (toWrittenAll ts)
  | [], _ => rfl
  | t :: ts, h => by
      rw [toWrittenAll, WrittenType.pathsOfAll, List.mem_append, not_or] at h
      rw [renderAll, toWrittenAll, WrittenType.texts, render_eq_text h.1, renderAll_eq_texts h.2]

end

end TypeRef

/-! ## Resolution -/

namespace ScopeTable

open TypeRef (slicePath toWrittenAll)

mutual

/-- The type that is written in a module, with absolute paths. -/
def writtenType (t : ScopeTable) (module : String) : TypeTerm → WrittenType
  | .path rooted segments before args =>
      .ofPath (if rooted then joinPath segments else t.resolvePath module segments)
        (writtenArguments t module before) (writtenArguments t module args)
  | .slice element => .slice (writtenType t module element)
  | .parenthesized inner => writtenType t module inner
  | .unit => .path unitText [] []
  | .other text => .other text

/-- The arguments that are written in a module, with absolute paths. -/
def writtenArguments (t : ScopeTable) (module : String) : List Argument → List WrittenType
  | [] => []
  | .type term :: args => writtenType t module term :: writtenArguments t module args
  | .other text :: args => .other text :: writtenArguments t module args

end

/-- **A path with arguments** becomes what is written, up to merging. -/
theorem toWritten_typeOfPath {path : String} {args : List TypeRef} {ws : List WrittenType}
    (hargs : toWrittenAll args = WrittenType.mergedAll ws)
    (hpath : slicePath ∉ (WrittenType.ofPath path [] ws).paths) :
    (typeOfPath path args).toWritten = (WrittenType.ofPath path [] ws).merged := by
  have hform : (TypeRef.withArgs path args).toWritten =
      TypeRef.writtenPath path (WrittenType.mergedAll ws) := by
    rw [← hargs]
    rfl
  rw [TypeRef.toWrittenAll_eq_map] at hargs
  rcases ws with _ | ⟨w, _ | ⟨w', ws⟩⟩
  · rw [List.map_eq_nil_iff.mp hargs]
    rfl
  · obtain ⟨r, rest, rfl, hr, hrest⟩ := List.map_eq_cons_iff.mp hargs
    obtain rfl : rest = [] := List.map_eq_nil_iff.mp hrest
    rw [typeOfPath]
    rw [WrittenType.ofPath] at hpath ⊢
    by_cases hoption : optionPaths.contains path = true
    · rw [if_pos hoption, if_pos hoption, TypeRef.toWritten_optional, hr]
      rfl
    · rw [if_neg hoption, WrittenType.paths, List.mem_cons, not_or] at hpath
      have hslice : (path == slicePath) = false := beq_false_of_ne fun h => hpath.1 h.symm
      rw [if_neg hoption, if_neg hoption, hform, WrittenType.mergedAll, WrittenType.mergedAll,
        TypeRef.writtenPath, hslice]
      rfl
  · obtain ⟨r, rest, rfl, -, hrest⟩ := List.map_eq_cons_iff.mp hargs
    obtain ⟨r', rest', rfl, -, -⟩ := List.map_eq_cons_iff.mp hrest
    exact hform

mutual

/-- **A resolution keeps every node of a structured type**, except for options directly in options.
-/
theorem toWritten_resolveType (t : ScopeTable) (module : String) : ∀ {term : TypeTerm},
    term.isStructured = true → slicePath ∉ (t.writtenType module term).paths →
      (t.resolveType module term).toWritten = (t.writtenType module term).merged
  | .path rooted segments before args, hform, hpaths => by
      rw [TypeTerm.isStructured, Bool.and_eq_true, List.isEmpty_iff] at hform
      obtain ⟨rfl, hargs⟩ := hform
      rw [writtenType, writtenArguments] at hpaths ⊢
      rw [resolveType]
      exact toWritten_typeOfPath (toWritten_resolveArguments t module hargs
        fun hmem => hpaths (WrittenType.mem_paths_ofPath hmem)) hpaths
  | .slice element, hform, hpaths => by
      rw [TypeTerm.isStructured] at hform
      rw [writtenType, WrittenType.paths] at hpaths
      rw [resolveType, writtenType, WrittenType.merged,
        ← toWritten_resolveType t module hform hpaths]
      rfl
  | .parenthesized inner, hform, hpaths => by
      rw [TypeTerm.isStructured] at hform
      rw [writtenType] at hpaths ⊢
      rw [resolveType]
      exact toWritten_resolveType t module hform hpaths
  | .unit, _, _ => rfl
  | .other text, hform, _ => nomatch hform

/-- So do the type arguments of a path. -/
theorem toWritten_resolveArguments (t : ScopeTable) (module : String) : ∀ {args : List Argument},
    Argument.allStructured args = true →
      slicePath ∉ WrittenType.pathsOfAll (t.writtenArguments module args) →
      toWrittenAll (t.resolveArguments module args) =
        WrittenType.mergedAll (t.writtenArguments module args)
  | [], _, _ => rfl
  | .type term :: args, hform, hpaths => by
      rw [Argument.allStructured, Bool.and_eq_true] at hform
      rw [writtenArguments, WrittenType.pathsOfAll, List.mem_append, not_or] at hpaths
      rw [resolveArguments, toWrittenAll, writtenArguments, WrittenType.mergedAll,
        toWritten_resolveType t module hform.1 hpaths.1,
        toWritten_resolveArguments t module hform.2 hpaths.2]
  | .other _ :: _, hform, _ => nomatch hform

end

/-- **The text of a resolved type.**  Where a structured type is resolved, and no path in it is
taken for a slice, parentheses go, every path gives way to its absolute form, and of options
directly in one another one is left.  So the text is that of the written type exactly if no option
stands directly in an option.

The converse is a matter of lengths.  An option that is merged away makes the text eight characters
shorter, so no two of them can make up for each other. -/
theorem resolves_to_written (t : ScopeTable) (module : String) {term : TypeTerm}
    (hform : term.isStructured = true) (hpaths : slicePath ∉ (t.writtenType module term).paths) :
    (t.resolveType module term).toWritten = (t.writtenType module term).merged ∧
    (t.resolveType module term).render = (t.writtenType module term).merged.text ∧
    ((t.resolveType module term).render = (t.writtenType module term).text ↔
      (t.writtenType module term).nestedOptions = 0) := by
  have hwritten := toWritten_resolveType t module hform hpaths
  have hrender : (t.resolveType module term).render = (t.writtenType module term).merged.text := by
    rw [← hwritten]
    refine TypeRef.render_eq_text ?_
    rwa [hwritten, WrittenType.paths_merged]
  exact ⟨hwritten, hrender, by rw [hrender, WrittenType.text_merged_eq_iff]⟩

/-- A module that imports a record and a collection. -/
def directory : ScopeTable :=
  (((empty.declareType "crate::model" "Person").declareModule "crate" "office").addUse
    "crate::office" (.path "crate" (.path "model" (.name "Person")))).addUse "crate::office"
      (.path "std" (.path "collections" (.name "HashMap")))

/-- A path without arguments. -/
def bareName (name : String) : TypeTerm := .path false [name] [] []

/-- The text has the absolute paths, and every option where it was written. -/
theorem resolves_to_written_staff :
    -- `HashMap<String, Option<Box<[(std::option::Option<Person>)]>>>`
    let staff : TypeTerm := .path false ["HashMap"] [] [.type (bareName "String"),
      .type (.path false ["Option"] [] [.type (.path false ["Box"] [] [.type (.slice
        (.parenthesized (.path false ["std", "option", "Option"] []
          [.type (bareName "Person")])))])])]
    staff.isStructured = true ∧
    (directory.writtenType "crate::office" staff).nestedOptions = 0 ∧
    (directory.resolveType "crate::office" staff).render =
      "std::collections::HashMap<String, Option<Box<[Option<crate::model::Person>]>>>" := by
  intro staff
  have hform : staff.isStructured = true := rfl
  have hpaths : slicePath ∉ (directory.writtenType "crate::office" staff).paths := by
    decide +kernel
  obtain ⟨-, -, htext⟩ := resolves_to_written directory "crate::office" hform hpaths
  have hnested : (directory.writtenType "crate::office" staff).nestedOptions = 0 := by
    decide +kernel
  refine ⟨hform, hnested, (htext.mpr hnested).trans ?_⟩
  decide +kernel

/-- **An option of an option is resolved to the option**, so its text is that of another type. -/
theorem resolves_to_other_of_nested :
    let nested : TypeTerm :=
      .path false ["Option"] [] [.type (.path false ["Option"] [] [.type (bareName "u8")])]
    nested.isStructured = true ∧ (empty.writtenType "crate" nested).paths = ["u8"] ∧
    (empty.writtenType "crate" nested).text = "Option<Option<u8>>" ∧
    (empty.resolveType "crate" nested).render = "Option<u8>" ∧
    (empty.resolveType "crate" nested).render ≠ (empty.writtenType "crate" nested).text := by
  decide +kernel

end ScopeTable
end FixtureFactory
