import FixtureFactory.Files.System
import FixtureFactory.Naming
import Mathlib.Data.List.TakeWhile

/-!
# Paths of files, piece by piece

A look-up goes through the pieces of a path, so what has to be known of a path is which pieces it
has: those of a path with a name after it, those of the path above it, and the last piece that
counts.

* `pieces_intercalate`: the pieces of the text of a path of names are these names.
* `exists_pieces_join`: a name after a path is one more piece, but for a slash at the end.
* `components_joinAll`: names after a path are one more component each.
* `parent_cases`: the path above is the path up to a slash, or the root, or nothing.
* `pieces_splitTarget`: the piece that names what a path leads to.
* `IsFileName`: the names of single files, which are one piece and lead down.
-/

namespace FixtureFactory
namespace Files

/-- A text between slashes that leads down. -/
structure IsFileName (name : String) : Prop where
  noSlash : '/' ∉ name.toList
  notEmpty : name ≠ ""
  notHere : name ≠ "."
  notUp : name ≠ ".."

instance (name : String) : Decidable (IsFileName name) :=
  decidable_of_iff ('/' ∉ name.toList ∧ name ≠ "" ∧ name ≠ "." ∧ name ≠ "..")
    ⟨fun ⟨hslash, hempty, hhere, hup⟩ => ⟨hslash, hempty, hhere, hup⟩,
      fun h => ⟨h.noSlash, h.notEmpty, h.notHere, h.notUp⟩⟩

/-! ## Pieces -/

theorem pieces_of_noSlash {name : String} (h : '/' ∉ name.toList) : pieces name = [name] := by
  have hname : ∀ c ∈ name.toList, (c == '/') = false :=
    fun c hc => beq_false_of_ne fun hslash => h (hslash ▸ hc)
  rw [pieces, Text.splitWhere_of_forall hname, List.map_singleton, String.ofList_toList]

theorem isAbsolute_of_noSlash {name : String} (h : '/' ∉ name.toList) :
    isAbsolute name = false := by
  unfold isAbsolute
  exact beq_false_of_ne fun hslash => h (List.mem_of_mem_head? hslash)

theorem pieces_of_toList_eq {path : String} {before after : List Char}
    (h : path.toList = before ++ '/' :: after) :
    pieces path = pieces (String.ofList before) ++ pieces (String.ofList after) := by
  have hsplit : Text.splitWhere (· == '/') (before ++ '/' :: after) = _ :=
    Text.splitWhere_append_cons rfl before after
  rw [pieces, pieces, pieces, h, String.toList_ofList, String.toList_ofList, hsplit,
    List.map_append]

/-- **The names of a path** are the pieces of its text. -/
theorem pieces_intercalate {names : List String} (hnames : names ≠ [])
    (h : ∀ name ∈ names, '/' ∉ name.toList) : pieces ("/".intercalate names) = names := by
  have hsplit : Text.splitWhere (· == '/') ("/".intercalate names).toList =
      names.map String.toList :=
    Text.splitWhere_toList_intercalate rfl rfl hnames fun name hname c hc =>
      beq_false_of_ne fun hslash => h name hname (hslash ▸ hc)
  rw [pieces, hsplit, Text.map_ofList_map_toList]

/-! ## A name after a path -/

theorem toList_join {base : String} (hbase : base ≠ "") (name : String) :
    (join base name).toList = base.toList ++ name.toList ∧ base.toList.getLast? = some '/' ∨
    (join base name).toList = base.toList ++ '/' :: name.toList := by
  rw [join, String.isEmpty_eq_false_iff.mpr hbase, if_neg Bool.false_ne_true]
  split
  · next h =>
      rw [String.toList_append]
      exact Or.inl ⟨rfl, beq_iff_eq.mp h⟩
  · rw [String.toList_append, String.toList_append, List.append_assoc]
    exact Or.inr rfl

/-- **The pieces of a path with a name after it** are those of the path and the name, where the
empty piece after a slash at the end gives way to the name. -/
theorem exists_pieces_join {base name : String} (hbase : base ≠ "") (hname : '/' ∉ name.toList) :
    ∃ front, pieces (join base name) = front ++ [name] ∧
      (pieces base = front ∨ pieces base = front ++ [""]) := by
  rcases toList_join hbase name with ⟨hjoin, hlast⟩ | hjoin
  · obtain ⟨front, hfront⟩ := List.getLast?_eq_some_iff.mp hlast
    rw [hfront, List.append_assoc, List.singleton_append] at hjoin
    refine ⟨pieces (String.ofList front), ?_, Or.inr (pieces_of_toList_eq hfront)⟩
    rw [pieces_of_toList_eq hjoin, String.ofList_toList, pieces_of_noSlash hname]
  · refine ⟨pieces base, ?_, Or.inl rfl⟩
    rw [pieces_of_toList_eq hjoin, String.ofList_toList, String.ofList_toList,
      pieces_of_noSlash hname]

theorem isAbsolute_join {base : String} (hbase : base ≠ "") (name : String) :
    isAbsolute (join base name) = isAbsolute base := by
  have hne : base.toList ≠ [] := fun h => hbase (String.toList_eq_nil_iff.mp h)
  obtain ⟨c, cs, hcs⟩ := List.exists_cons_of_ne_nil hne
  rw [isAbsolute, isAbsolute, hcs]
  rcases toList_join hbase name with ⟨hjoin, -⟩ | hjoin
  · rw [hjoin, hcs]
    rfl
  · rw [hjoin, hcs]
    rfl

theorem componentOf?_name {name : String} (h : IsFileName name) :
    componentOf? name = some (.name name) := by
  simp [componentOf?, h.notEmpty, h.notHere, h.notUp]

theorem components_name {name : String} (h : IsFileName name) :
    components name = [.name name] := by
  simp [components, isAbsolute_of_noSlash h.noSlash, pieces_of_noSlash h.noSlash,
    componentOf?_name h, h.notHere]

/-- **A name after a path** is one more component. -/
theorem components_join {name : String} (h : IsFileName name) (base : String) :
    components (join base name) = components base ++ [.name name] := by
  by_cases hbase : base = ""
  · subst hbase
    exact components_name h
  · obtain ⟨front, hpieces, hfront⟩ := exists_pieces_join hbase h.noSlash
    have hinner : (pieces base).filterMap componentOf? = front.filterMap componentOf? := by
      rcases hfront with hfront | hfront <;> simp [hfront, componentOf?]
    -- whether the path starts with a dot does not depend on the name either
    have hdot : (pieces (join base name)).head? = some "." ↔ (pieces base).head? = some "." := by
      rw [hpieces]
      rcases hfront with hfront | hfront <;> rw [hfront] <;> cases front <;> simp [h.notHere]
    have hnames : (pieces (join base name)).filterMap componentOf? =
        (pieces base).filterMap componentOf? ++ [.name name] := by
      rw [hpieces, List.filterMap_append, hinner]
      simp [componentOf?_name h]
    simp only [components, hnames, isAbsolute_join hbase, beq_iff_eq, hdot]
    split_ifs <;> simp

/-- **Names after a path** are one more component each. -/
theorem components_joinAll {names : List String} (h : ∀ name ∈ names, IsFileName name)
    (base : String) : components (joinAll base names) = components base ++ names.map .name := by
  induction names generalizing base with
  | nil => simp [joinAll]
  | cons name names ih =>
      obtain ⟨hname, hnames⟩ := List.forall_mem_cons.mp h
      have hstep : joinAll base (name :: names) = joinAll (join base name) names := rfl
      rw [hstep, ih hnames, components_join hname]
      simp

/-! ## The path above -/

/-- What is dropped with the last component: nothing is left, or what ends in a slash. -/
theorem dropLastComponent_cases (piece cs : List Char) :
    dropLastComponent piece cs = [] ∨
    ∃ dropped rest, cs = dropped ++ '/' :: rest ∧ dropLastComponent piece cs = '/' :: rest := by
  fun_induction dropLastComponent piece cs with
  | case1 => exact Or.inl rfl
  | case2 piece rest _ => exact Or.inr ⟨[], rest, rfl, rfl⟩
  | case3 piece rest _ ih =>
      rcases ih with ih | ⟨dropped, rest', rfl, ih⟩
      · exact Or.inl ih
      · exact Or.inr ⟨'/' :: dropped, rest', rfl, ih⟩
  | case4 piece c rest _ ih =>
      rcases ih with ih | ⟨dropped, rest', rfl, ih⟩
      · exact Or.inl ih
      · exact Or.inr ⟨c :: dropped, rest', rfl, ih⟩

/-- What is left of a path, from its end, once what does not count there has been dropped: it is a
part of the path, and if it is not the root alone, it has ended at a slash.  A slash that comes
first is dropped unless it is the root. -/
theorem trimEnd_cases (cs : List Char) :
    trimEnd cs <:+ cs ∧
    (cs.head? = some '/' → trimEnd cs = ['/'] ∨ trimEnd cs ≠ cs) ∧
    (trimEnd cs = ['/'] ∨ ∃ dropped, '/' :: cs = dropped ++ '/' :: trimEnd cs) := by
  fun_induction trimEnd cs with
  | case1 rest h =>
      rw [List.isEmpty_iff.mp h]
      exact ⟨List.suffix_refl _, fun _ => Or.inl rfl, Or.inl rfl⟩
  | case2 rest h ih =>
      obtain ⟨hsuffix, -, hcases⟩ := ih
      refine ⟨hsuffix.trans (List.suffix_cons _ _), fun _ => Or.inr fun heq => ?_, ?_⟩
      · have hlength := hsuffix.length_le
        rw [heq, List.length_cons] at hlength
        exact absurd hlength (Nat.not_succ_le_self _)
      · rcases hcases with hroot | ⟨dropped, hdropped⟩
        · exact Or.inl hroot
        · exact Or.inr ⟨'/' :: dropped, congrArg ('/' :: ·) hdropped⟩
  | case3 rest ih =>
      obtain ⟨hsuffix, hhead, hcases⟩ := ih
      refine ⟨hsuffix.trans (List.suffix_cons _ _), fun h => absurd h (by simp), ?_⟩
      rcases hcases with hroot | ⟨dropped, hdropped⟩
      · exact Or.inl hroot
      · rcases dropped with _ | ⟨first, dropped⟩
        · -- nothing has been dropped behind the dot, so the slash there is the root
          exact Or.inl ((hhead rfl).resolve_right fun hne => hne (List.cons.inj hdropped).2.symm)
        · exact Or.inr ⟨'/' :: '.' :: dropped,
            congrArg (fun l => '/' :: '.' :: l) (List.cons.inj hdropped).2⟩
  | case4 cs hslash hdot =>
      refine ⟨List.suffix_refl _, fun h => ?_, Or.inr ⟨[], rfl⟩⟩
      obtain ⟨rest, rfl⟩ := List.head?_eq_some_iff.mp h
      exact absurd rfl (hslash rest)

/-- **The path above** is the path up to a slash, or the root, or nothing. -/
theorem parent_cases (path : String) :
    parent path = "" ∨ (parent path = "/" ∧ isAbsolute path = true) ∨
    ∃ rest, path.toList = (parent path).toList ++ '/' :: rest := by
  rw [parent]
  rcases dropLastComponent_cases [] path.toList.reverse with hdrop | ⟨dropped, rest, hpath, hdrop⟩
  · rw [hdrop]
    exact Or.inl rfl
  · rw [hdrop, String.toList_ofList]
    have hpath : path.toList = (dropped ++ '/' :: rest).reverse := by
      rw [← hpath, List.reverse_reverse]
    by_cases hrest : rest = []
    · refine Or.inr (Or.inl ⟨by rw [hrest]; rfl, ?_⟩)
      rw [isAbsolute, hpath, hrest, List.reverse_append]
      rfl
    · have htrim : trimEnd ('/' :: rest) = trimEnd rest := by
        rw [trimEnd, List.isEmpty_eq_false_iff.mpr hrest, if_neg Bool.false_ne_true]
      obtain ⟨⟨front, hfront⟩, -, hcases⟩ := trimEnd_cases rest
      rw [htrim]
      rcases hcases with hroot | ⟨dropped', hdropped⟩
      · refine Or.inr (Or.inl ⟨by rw [hroot]; rfl, ?_⟩)
        rw [isAbsolute, hpath, ← hfront, hroot, List.reverse_append, ← List.cons_append,
          List.reverse_append]
        rfl
      · refine Or.inr (Or.inr ⟨(dropped ++ dropped').reverse, ?_⟩)
        rw [hpath, hdropped]
        simp

/-! ## The last piece -/

/-- **The piece that names what a path leads to** is followed by empty pieces only; where there is
none, all pieces are empty. -/
theorem pieces_splitTarget (path : String) :
    FileSystem.splitTarget path = ([], "") ∨
    ∃ n, pieces path = (FileSystem.splitTarget path).1 ++
      (FileSystem.splitTarget path).2 :: List.replicate n "" := by
  rw [FileSystem.splitTarget]
  have hsplit := List.takeWhile_append_dropWhile (p := (· == "")) (l := (pieces path).reverse)
  cases hdrop : (pieces path).reverse.dropWhile (· == "") with
  | nil => exact Or.inl rfl
  | cons last before =>
      obtain ⟨n, hempty⟩ : ∃ n, (pieces path).reverse.takeWhile (· == "") = List.replicate n "" :=
        ⟨_, List.eq_replicate_of_mem fun piece hpiece =>
          beq_iff_eq.mp (List.mem_takeWhile_imp (p := fun piece => piece == "") hpiece)⟩
      rw [hdrop, hempty] at hsplit
      refine Or.inr ⟨n, ?_⟩
      rw [← List.reverse_reverse (pieces path), ← hsplit]
      simp

/-! ## File names -/

theorem mem_of_mem_dropEnding {ending cs : List Char} {c : Char}
    (h : c ∈ Text.dropEnding ending cs) : c ∈ cs := by
  rw [Text.dropEnding] at h
  split at h
  · exact List.mem_of_mem_take h
  · exact h

/-- The base name of a unit holds no slash. -/
theorem noSlash_unitBaseName (path : String) : '/' ∉ (unitBaseName path).toList := by
  have hpieces : ∀ piece ∈ (Text.splitSlashes path.toList).reverse, '/' ∉ piece := by
    intro piece hpiece hslash
    exact absurd (Text.separates_of_mem_splitWhere (List.mem_reverse.mp hpiece) '/' hslash)
      (by decide)
  rw [unitBaseName]
  cases hsplit : (Text.splitSlashes path.toList).reverse with
  | nil => exact absurd (List.reverse_eq_nil_iff.mp hsplit) (Text.splitWhere_ne_nil _ _)
  | cons file parents =>
      rw [hsplit] at hpieces
      obtain ⟨hfile, hparents⟩ := List.forall_mem_cons.mp hpieces
      have hstem : '/' ∉ Text.dropEnding ['.', 'r', 's'] file :=
        fun hslash => hfile (mem_of_mem_dropEnding hslash)
      dsimp only
      split
      · rw [String.toList_ofList]
        cases parents with
        | nil => exact hstem
        | cons directory _ => exact hparents directory List.mem_cons_self
      · rw [String.toList_ofList]
        exact hstem

end Files
end FixtureFactory
