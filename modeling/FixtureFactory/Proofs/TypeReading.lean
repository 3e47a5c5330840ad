import FixtureFactory.Proofs.TypeTexts
import FixtureFactory.Proofs.WrittenTypes

/-!
# Texts that determine types

Two types are told apart by their texts as long as nothing in a path can be taken for what stands
around it.  A path ends where the first bracket or comma is, since it holds none itself; what stands
in brackets is read in the same way, one argument after the other; and that an argument has ended is
seen from the character after it.  So the induction needs the text of a type together with what
follows it, and what may follow is nothing, a comma, or a closing bracket.

* `WrittenType.IsLegible`: the types whose texts can be read.
* `WrittenType.Reads`: a type is determined by any text that starts with its own.
* `WrittenType.reads_of_headed`: a type that starts with a path reads if its arguments do.
* `WrittenType.eq_of_text_eq`: legible types of one text are equal.
* `TypeRef.toWritten_eq_of_render_eq`: so type references of one text stand for one type.
-/

namespace FixtureFactory

open TypeRef (delimiters)

/-- Whether a text holds no character that the text of a type puts around paths. -/
def IsClear (text : String) : Prop := ∀ c ∈ text.toList, c ∉ delimiters

/-- The characters of a text are looked at one by one. -/
instance (text : String) : Decidable (IsClear text) := List.decidableBAll _ _

/-- **What stands before the first delimiter** is determined by the whole. -/
theorem eq_of_append_eq {name name' rest rest' : List Char} (hname : ∀ c ∈ name, c ∉ delimiters)
    (hname' : ∀ c ∈ name', c ∉ delimiters) (hrest : ∀ c ∈ rest.head?, c ∈ delimiters)
    (hrest' : ∀ c ∈ rest'.head?, c ∈ delimiters) (h : name ++ rest = name' ++ rest') :
    name = name' ∧ rest = rest' := by
  induction name generalizing name' with
  | nil =>
      cases name' with
      | nil => exact ⟨rfl, h⟩
      | cons c name' =>
          -- what follows the shorter name would start within the longer one
          have hhead : c ∈ rest.head? := by
            rw [List.nil_append] at h
            rw [h]
            rfl
          exact absurd (hrest c hhead) (hname' c List.mem_cons_self)
  | cons c name ih =>
      cases name' with
      | nil =>
          have hhead : c ∈ rest'.head? := by
            rw [List.nil_append] at h
            rw [← h]
            rfl
          exact absurd (hrest' c hhead) (hname c List.mem_cons_self)
      | cons c' name' =>
          obtain ⟨rfl, htail⟩ := List.cons.inj h
          obtain ⟨rfl, hrests⟩ := ih (fun d hd => hname d (List.mem_cons_of_mem _ hd))
            (fun d hd => hname' d (List.mem_cons_of_mem _ hd)) htail
          exact ⟨rfl, hrests⟩

namespace WrittenType

/-! ## Legible types -/

mutual

/-- Whether the text of a type can be read: its paths are clear and have arguments at their end
only, no type is without structure, and no path is taken for an option. -/
def IsLegible : WrittenType → Prop
  | path name before args =>
      IsClear name ∧ before = [] ∧ (name = "Option" → args.length ≠ 1) ∧ AllLegible args
  | option inner => inner.IsLegible
  | slice element => element.IsLegible
  | other _ => False

/-- Whether the texts of all of some types can be read. -/
def AllLegible : List WrittenType → Prop
  | [] => True
  | w :: ws => w.IsLegible ∧ AllLegible ws

end

mutual

/-- A path that holds a delimiter is not a path of a legible type. -/
theorem notMem_paths_of_isLegible {path : String} (hpath : ¬ IsClear path) :
    ∀ {w : WrittenType}, w.IsLegible → path ∉ w.paths
  | .path name before args, hw => by
      obtain ⟨hname, rfl, -, hargs⟩ := hw
      rw [paths, pathsOfAll, List.nil_append, List.mem_cons, not_or]
      exact ⟨fun heq => hpath (heq ▸ hname), notMem_pathsOfAll_of_allLegible hpath hargs⟩
  | option inner, hw => by
      rw [IsLegible] at hw
      rw [paths]
      exact notMem_paths_of_isLegible hpath hw
  | slice element, hw => by
      rw [IsLegible] at hw
      rw [paths]
      exact notMem_paths_of_isLegible hpath hw
  | other _, hw => hw.elim

theorem notMem_pathsOfAll_of_allLegible {path : String} (hpath : ¬ IsClear path) :
    ∀ {ws : List WrittenType}, AllLegible ws → path ∉ pathsOfAll ws
  | [], _ => List.not_mem_nil
  | w :: ws, hws => by
      rw [pathsOfAll, List.mem_append, not_or]
      exact ⟨notMem_paths_of_isLegible hpath hws.1, notMem_pathsOfAll_of_allLegible hpath hws.2⟩

end

/-- **A path with legible arguments is legible** if its paths are clear. -/
theorem isLegible_ofPath {path : String} {args : List WrittenType}
    (hpaths : ∀ name ∈ (ofPath path [] args).paths, IsClear name) (hargs : AllLegible args) :
    (ofPath path [] args).IsLegible := by
  rcases args with _ | ⟨w, _ | ⟨w', args⟩⟩
  · exact ⟨hpaths path List.mem_cons_self, rfl, fun _ => by simp, hargs⟩
  · rw [ofPath] at hpaths ⊢
    split
    · exact hargs.1
    · rename_i hoption
      rw [if_neg hoption] at hpaths
      refine ⟨hpaths path List.mem_cons_self, rfl, fun hname => absurd ?_ hoption, hargs⟩
      rw [hname]
      rfl
  · exact ⟨hpaths path List.mem_cons_self, rfl, fun _ => by simp, hargs⟩

theorem isLegible_joined {w : WrittenType} (hw : w.IsLegible) : w.joined.IsLegible := by
  cases w <;> exact hw

theorem length_mergedAll (ws : List WrittenType) : (mergedAll ws).length = ws.length := by
  induction ws with
  | nil => rfl
  | cons w ws ih => rw [mergedAll, List.length_cons, List.length_cons, ih]

mutual

/-- **Merging options keeps a type legible.** -/
theorem isLegible_merged : ∀ {w : WrittenType}, w.IsLegible → w.merged.IsLegible
  | .path name before args, hw => by
      obtain ⟨hname, rfl, hoption, hargs⟩ := hw
      rw [merged, mergedAll]
      refine ⟨hname, rfl, fun heq => ?_, allLegible_mergedAll hargs⟩
      rw [length_mergedAll]
      exact hoption heq
  | option inner, hw => by
      rw [IsLegible] at hw
      rw [merged]
      exact isLegible_joined (isLegible_merged hw)
  | slice element, hw => by
      rw [IsLegible] at hw
      rw [merged]
      exact isLegible_merged hw
  | other _, hw => hw.elim

theorem allLegible_mergedAll : ∀ {ws : List WrittenType}, AllLegible ws → AllLegible (mergedAll ws)
  | [], _ => trivial
  | _ :: _, hws => ⟨isLegible_merged hws.1, allLegible_mergedAll hws.2⟩

end

/-- The path that a type starts with, and the arguments of the path; a slice starts with none. -/
def headed : WrittenType → Option (String × List WrittenType)
  | path name _ args => some (name, args)
  | option inner => some ("Option", [inner])
  | _ => none

/-! ## Characters -/

/-- The characters after the first of some arguments. -/
def closing : List WrittenType → List Char
  | [] => ['>']
  | w :: ws => ',' :: ' ' :: (w.text.toList ++ closing ws)

/-- The characters of arguments in brackets, if there are any. -/
def bracketed : List WrittenType → List Char
  | [] => []
  | w :: ws => '<' :: (w.text.toList ++ closing ws)

theorem toList_argumentsText (ws : List WrittenType) :
    (argumentsText (texts ws)).toList = bracketed ws := by
  have hclosing : ∀ (ws : List WrittenType) (w : WrittenType),
      (", ".intercalate (texts (w :: ws))).toList ++ ['>'] = w.text.toList ++ closing ws := by
    intro ws
    induction ws with
    | nil =>
        intro w
        rw [texts, texts, String.intercalate_singleton, closing]
    | cons w' ws ih =>
        intro w
        have hcomma : (", " : String).toList = [',', ' '] := rfl
        have htail := ih w'
        rw [texts] at htail
        rw [texts, texts, String.intercalate_cons_cons, String.toList_append,
          String.toList_append, List.append_assoc, List.append_assoc, htail, closing, hcomma]
        rfl
  cases ws with
  | nil => rfl
  | cons w ws =>
      rw [bracketed, ← hclosing ws w]
      simp only [texts, argumentsText, List.isEmpty_cons, Bool.false_eq_true, if_false,
        String.toList_append, List.append_assoc]
      rfl

/-- The characters of a type that starts with a path. -/
theorem toList_text_of_headed {w : WrittenType} {name : String} {args : List WrittenType}
    (hw : w.IsLegible) (h : w.headed = some (name, args)) :
    w.text.toList = name.toList ++ bracketed args := by
  cases w with
  | path name before args =>
      cases h
      obtain ⟨-, rfl, -, -⟩ := hw
      rw [text, String.toList_append, String.toList_append, toList_argumentsText,
        toList_argumentsText]
      exact congrArg (· ++ _) (List.append_nil _)
  | option inner =>
      cases h
      rw [text, String.toList_append, String.toList_append, bracketed, closing]
      rfl
  | slice element => cases h
  | other text => cases h

theorem toList_text_slice_append (element : WrittenType) (rest : List Char) :
    (slice element).text.toList ++ rest = '[' :: (element.text.toList ++ ']' :: rest) := by
  rw [text, String.toList_append, String.toList_append, List.append_assoc, List.append_assoc]
  rfl

/-- What a legible type starts with: a clear path with legible arguments, or the bracket of a
slice. -/
theorem headed_cases {w : WrittenType} (hw : w.IsLegible) :
    (∃ name args, w.headed = some (name, args) ∧ IsClear name ∧ AllLegible args) ∨
      ∃ element, w = slice element ∧ element.IsLegible := by
  cases w with
  | path name before args => exact Or.inl ⟨name, args, rfl, hw.1, hw.2.2.2⟩
  | option inner => exact Or.inl ⟨"Option", [inner], rfl, by decide, hw, trivial⟩
  | slice element => exact Or.inr ⟨element, rfl, hw⟩
  | other text => exact hw.elim

/-- A legible type that starts with a path is determined by the path and the arguments. -/
theorem eq_of_headed_eq {w w' : WrittenType} (hw : w.IsLegible) (hw' : w'.IsLegible)
    {found : String × List WrittenType} (h : w.headed = some found) (h' : w'.headed = some found) :
    w = w' := by
  cases w with
  | path name before args =>
      cases h
      obtain ⟨-, rfl, hoption, -⟩ := hw
      cases w' with
      | path name' before' args' =>
          cases h'
          obtain ⟨-, rfl, -, -⟩ := hw'
          rfl
      | option inner =>
          cases h'
          exact absurd rfl (hoption rfl)
      | slice element => cases h'
      | other text => cases h'
  | option inner =>
      cases h
      cases w' with
      | path name' before' args' =>
          cases h'
          exact absurd rfl (hw'.2.2.1 rfl)
      | option inner' =>
          cases h'
          rfl
      | slice element => cases h'
      | other text => cases h'
  | slice element => cases h
  | other text => cases h

/-! ## Reading -/

/-- Whether some characters may follow a type: there are none, or they start with a comma or a
closing bracket. -/
def MayFollow (rest : List Char) : Prop := ∀ c ∈ rest.head?, c ∈ [',', '>', ']']

theorem mayFollow_nil : MayFollow [] := fun _ hc => nomatch hc

theorem mayFollow_cons {c : Char} (h : c ∈ [',', '>', ']']) (rest : List Char) :
    MayFollow (c :: rest) := fun _ hd => Option.some.inj hd ▸ h

theorem mayFollow_closing (ws : List WrittenType) (rest : List Char) :
    MayFollow (closing ws ++ rest) := by
  cases ws with
  | nil => exact mayFollow_cons (by decide) _
  | cons w ws => exact mayFollow_cons (by decide) _

theorem head?_bracketed {rest : List Char} (hrest : MayFollow rest) (args : List WrittenType) :
    ∀ c ∈ (bracketed args ++ rest).head?, c ∈ delimiters ∧ c ≠ '[' := by
  have hfollows : ∀ c ∈ ['<', ',', '>', ']'], c ∈ delimiters ∧ c ≠ '[' := by simp [delimiters]
  cases args with
  | nil => exact fun c hc => hfollows c (List.mem_cons_of_mem _ (hrest c hc))
  | cons w ws =>
      intro c hc
      exact hfollows c (Option.some.inj hc ▸ List.mem_cons_self)

/-- Whether a type is determined by any text that starts with its own, and with it what follows. -/
def Reads (w : WrittenType) : Prop :=
  ∀ w' : WrittenType, w'.IsLegible → ∀ rest rest' : List Char, MayFollow rest → MayFollow rest' →
    w.text.toList ++ rest = w'.text.toList ++ rest' → w = w' ∧ rest = rest'

/-- **Arguments after the first** are determined if each of them is. -/
theorem eq_of_closing_eq {ws : List WrittenType} (hws : ∀ w ∈ ws, w.Reads) :
    ∀ {ws' : List WrittenType}, AllLegible ws' → ∀ {rest rest' : List Char},
      closing ws ++ rest = closing ws' ++ rest' → ws = ws' ∧ rest = rest' := by
  induction ws with
  | nil =>
      intro ws' hws' rest rest' h
      cases ws' with
      | nil => exact ⟨rfl, (List.cons.inj h).2⟩
      | cons w' ws' => exact absurd (List.cons.inj h).1 (by decide)
  | cons w ws ih =>
      intro ws' hws' rest rest' h
      cases ws' with
      | nil => exact absurd (List.cons.inj h).1 (by decide)
      | cons w' ws' =>
          rw [AllLegible] at hws'
          rw [closing, closing, List.cons_append, List.cons_append, List.cons_append,
            List.cons_append, List.append_assoc, List.append_assoc] at h
          have htexts := (List.cons.inj (List.cons.inj h).2).2
          obtain ⟨rfl, hclosing⟩ := hws w List.mem_cons_self w' hws'.1 _ _
            (mayFollow_closing ws rest) (mayFollow_closing ws' rest') htexts
          obtain ⟨rfl, hrest⟩ := ih (fun v hv => hws v (List.mem_cons_of_mem _ hv)) hws'.2 hclosing
          exact ⟨rfl, hrest⟩

/-- Arguments in brackets are determined if each of them is. -/
theorem eq_of_bracketed_append_eq {args args' : List WrittenType} (hargs : ∀ w ∈ args, w.Reads)
    (hargs' : AllLegible args') {rest rest' : List Char} (hrest : MayFollow rest)
    (hrest' : MayFollow rest') (h : bracketed args ++ rest = bracketed args' ++ rest') :
    args = args' ∧ rest = rest' := by
  have hopen : ∀ {rest inner : List Char}, MayFollow rest → rest ≠ '<' :: inner := by
    intro rest inner hrest heq
    exact absurd (hrest '<' (heq ▸ rfl)) (by decide)
  cases args with
  | nil =>
      cases args' with
      | nil => exact ⟨rfl, h⟩
      | cons w' ws' => exact absurd h (hopen hrest)
  | cons w ws =>
      cases args' with
      | nil => exact absurd h.symm (hopen hrest')
      | cons w' ws' =>
          rw [AllLegible] at hargs'
          rw [bracketed, bracketed, List.cons_append, List.cons_append, List.append_assoc,
            List.append_assoc] at h
          obtain ⟨rfl, hclosing⟩ := hargs w List.mem_cons_self w' hargs'.1 _ _
            (mayFollow_closing ws rest) (mayFollow_closing ws' rest') (List.cons.inj h).2
          obtain ⟨rfl, hrests⟩ := eq_of_closing_eq
            (fun v hv => hargs v (List.mem_cons_of_mem _ hv)) hargs'.2 hclosing
          exact ⟨rfl, hrests⟩

/-- A type that starts with a path does not start with the bracket of a slice. -/
theorem ne_of_headed {w : WrittenType} (hw : w.IsLegible) {name : String}
    {args : List WrittenType} (hname : IsClear name) (h : w.headed = some (name, args))
    {rest inner : List Char} (hrest : MayFollow rest) : w.text.toList ++ rest ≠ '[' :: inner := by
  intro htext
  rw [toList_text_of_headed hw h, List.append_assoc] at htext
  cases hchars : name.toList with
  | nil =>
      -- the bracket would follow the path
      rw [hchars, List.nil_append] at htext
      have hhead : '[' ∈ (bracketed args ++ rest).head? := by
        rw [htext]
        rfl
      exact absurd rfl (head?_bracketed hrest args _ hhead).2
  | cons c cs =>
      rw [hchars, List.cons_append] at htext
      obtain ⟨rfl, -⟩ := List.cons.inj htext
      exact absurd (by decide) (hname '[' (hchars ▸ List.mem_cons_self))

/-- **A type that starts with a path reads if its arguments do.** -/
theorem reads_of_headed {w : WrittenType} (hw : w.IsLegible) {name : String}
    {args : List WrittenType} (hname : IsClear name) (h : w.headed = some (name, args))
    (hargs : ∀ a ∈ args, a.Reads) : w.Reads := by
  intro w' hw' rest rest' hrest hrest' htext
  rcases headed_cases hw' with ⟨name', args', h', hname', hargs'⟩ | ⟨element, rfl, -⟩
  · rw [toList_text_of_headed hw h, toList_text_of_headed hw' h', List.append_assoc,
      List.append_assoc] at htext
    obtain ⟨hnames, hbracketed⟩ := eq_of_append_eq hname hname'
      (fun c hc => (head?_bracketed hrest args c hc).1)
      (fun c hc => (head?_bracketed hrest' args' c hc).1) htext
    obtain ⟨rfl, hrests⟩ := eq_of_bracketed_append_eq hargs hargs' hrest hrest' hbracketed
    obtain rfl : name = name' := String.toList_inj.mp hnames
    exact ⟨eq_of_headed_eq hw hw' h h', hrests⟩
  · rw [toList_text_slice_append] at htext
    exact absurd htext (ne_of_headed hw hname h hrest)

/-- **A slice reads if its element does.** -/
theorem reads_slice {element : WrittenType} (h : element.Reads) : (slice element).Reads := by
  intro w' hw' rest rest' hrest hrest' htext
  rw [toList_text_slice_append] at htext
  rcases headed_cases hw' with ⟨name', args', h', hname', -⟩ | ⟨element', rfl, helement'⟩
  · exact absurd htext.symm (ne_of_headed hw' hname' h' hrest')
  · rw [toList_text_slice_append] at htext
    obtain ⟨rfl, hclosed⟩ := h element' helement' _ _ (mayFollow_cons (by decide) rest)
      (mayFollow_cons (by decide) rest') (List.cons.inj htext).2
    exact ⟨rfl, (List.cons.inj hclosed).2⟩

mutual

/-- **A legible type reads.** -/
theorem reads : ∀ {w : WrittenType}, w.IsLegible → w.Reads
  | path _ _ _, hw => reads_of_headed hw hw.1 rfl (reads_all hw.2.2.2)
  | option _, hw => reads_of_headed hw (by decide) rfl (List.forall_mem_singleton.mpr (reads hw))
  | slice _, hw => reads_slice (reads hw)
  | other _, hw => hw.elim

theorem reads_all : ∀ {ws : List WrittenType}, AllLegible ws → ∀ w ∈ ws, w.Reads
  | [], _ => fun _ hw => absurd hw List.not_mem_nil
  | _ :: _, hws => List.forall_mem_cons.mpr ⟨reads hws.1, reads_all hws.2⟩

end

/-- **Legible types of one text are equal.** -/
theorem eq_of_text_eq {w w' : WrittenType} (hw : w.IsLegible) (hw' : w'.IsLegible)
    (h : w.text = w'.text) : w = w' :=
  (reads hw w' hw' [] [] mayFollow_nil mayFollow_nil (by rw [h])).1

end WrittenType

/-- **Type references of one text** stand for one type, if the types are legible. -/
theorem TypeRef.toWritten_eq_of_render_eq {t t' : TypeRef} (ht : t.toWritten.IsLegible)
    (ht' : t'.toWritten.IsLegible) (h : t.render = t'.render) : t.toWritten = t'.toWritten := by
  have hslice : ¬ IsClear slicePath := by decide
  rw [render_eq_text (WrittenType.notMem_paths_of_isLegible hslice ht),
    render_eq_text (WrittenType.notMem_paths_of_isLegible hslice ht')] at h
  exact WrittenType.eq_of_text_eq ht ht' h

end FixtureFactory
