import FixtureFactory.Proofs.Readers
import FixtureFactory.Source.Grammar.Types

/-!
# Types that are read

The segments of a path in a type are words, whatever the text is that the type is read from.  This
has to be said of paths and of their arguments at once, since each may hold the other; the grammar
breaks the circle, as what is true of its types is true of the types of the next deeper one.

* `Source.TypeTerm.OfWords`: the segments of all paths in a type are words.
* `Source.Grammar.gives_path`: the paths of a grammar.
* `Source.Grammar.gives_anyType`: the types of the next deeper grammar.
-/

namespace FixtureFactory
namespace Source

/-! ## Types made of words -/

mutual

/-- Whether the segments of all paths in a type are words. -/
def TypeTerm.OfWords : TypeTerm → Prop
  | .path _ segments before args =>
      (∀ segment ∈ segments, IsWordText segment) ∧ Argument.AllOfWords before ∧
        Argument.AllOfWords args
  | .slice element => element.OfWords
  | .parenthesized inner => inner.OfWords
  | .unit => True
  | .other _ => True

/-- Whether the segments of all paths in some arguments are words. -/
def Argument.AllOfWords : List Argument → Prop
  | [] => True
  | .type term :: args => term.OfWords ∧ Argument.AllOfWords args
  | .other _ :: args => Argument.AllOfWords args

end

theorem Argument.allOfWords_iff {args : List Argument} :
    Argument.AllOfWords args ↔ ∀ arg ∈ args, ∀ term ∈ arg.type?, term.OfWords := by
  induction args with
  | nil => simp [Argument.AllOfWords]
  | cons arg args ih => cases arg <;> simp [Argument.AllOfWords, Argument.type?, ih]

namespace Grammar

open Reader

/-- Whether an argument, if it is a type, is made of words. -/
def ArgumentForm.OfWords : ArgumentForm → Prop
  | .type term => term.OfWords
  | _ => True

/-- Whether a path that was read is made of words. -/
structure PathForm.OfWords (p : PathForm) : Prop where
  segments : ∀ segment ∈ p.segments, IsWordText segment
  before : Argument.AllOfWords p.before
  args : Argument.AllOfWords p.args

/-- Whether the types of a grammar are made of words. -/
def TypesOfWords (g : Grammar) : Prop := ∀ allowSum, (g.type allowSum).Gives TypeTerm.OfWords

variable {g : Grammar}

/-! ## Paths -/

theorem gives_argument (hg : g.TypesOfWords) : (argument g).Gives ArgumentForm.OfWords := by
  rw [argument]
  refine gives_bind fun isLifetime => gives_ite (gives_bind fun _ => gives_pure trivial) ?_
  refine gives_bind fun isConstant => gives_ite (gives_bind fun _ => gives_pure trivial) ?_
  refine (hg true).bind fun term hterm => gives_ite (gives_pure hterm) ?_
  refine gives_bind fun isBinding => gives_ite ?_ ?_
  · exact gives_bind fun _ => gives_ite (gives_bind fun _ => gives_pure trivial)
      (gives_bind fun _ => gives_pure trivial)
  · refine gives_bind fun isBound => gives_ite ?_ (gives_pure hterm)
    exact gives_bind fun _ => gives_pure trivial

/-- Arguments in angle brackets are made of words. -/
theorem gives_arguments (hg : g.TypesOfWords) : (arguments g).Gives Argument.AllOfWords := by
  rw [arguments]
  refine gives_bind fun _ => gives_bind fun _ => gives_bind fun _ => gives_bind fun _ => ?_
  refine (gives_separated _ _ (gives_argument hg).withText).bind fun found hfound => ?_
  refine gives_bind fun _ => gives_bind fun _ => gives_bind fun _ => gives_pure ?_
  refine Argument.allOfWords_iff.mpr fun arg harg term hterm => ?_
  obtain ⟨⟨form, text⟩, hmem, rfl⟩ := List.mem_map.mp harg
  have hform : form.OfWords := hfound _ hmem
  cases form with
  | type inner =>
      cases hterm
      exact hform
  | lifetime => cases hterm
  | other => cases hterm

/-- A segment is a word, and its arguments are made of words. -/
theorem gives_segment (hg : g.TypesOfWords) (inExpression : Bool) :
    (segment g inExpression).Gives fun found =>
      IsWordText found.1 ∧ Argument.AllOfWords (found.2.getD []) := by
  have hrest : ∀ name : String, IsWordText name → (do
      let direct ← ahead (Lookahead.operatorOnly "<" "<=")
      let marked ← ahead (.and (.operator "::") (.next (.next (.operator "<"))))
      if (!inExpression && direct) || marked then return (name, some (← arguments g))
      else return (name, none) : Reader (String × Option (List Argument))).Gives fun found =>
        IsWordText found.1 ∧ Argument.AllOfWords (found.2.getD []) := by
    intro name hname
    refine gives_bind fun direct => gives_bind fun marked => gives_ite ?_ ?_
    · exact (gives_arguments hg).bind fun args hargs => gives_pure ⟨hname, hargs⟩
    · exact gives_pure ⟨hname, trivial⟩
  rw [segment]
  refine gives_bind fun isKeyword => gives_ite ?_ ?_
  · exact gives_anyWord.bind fun name hname => gives_pure ⟨hname, trivial⟩
  · refine gives_bind fun isSelf => gives_ite ?_ ?_
    · exact gives_anyWord.bind hrest
    · exact gives_name.bind fun name hname => hrest name hname.1

/-- A path stays made of words when a segment of words is added. -/
theorem PathForm.OfWords.add {p : PathForm} (hp : p.OfWords)
    {found : String × Option (List Argument)} (hname : IsWordText found.1)
    (hargs : Argument.AllOfWords (found.2.getD [])) : (p.add found).OfWords where
  segments := by
    intro segment hsegment
    rcases List.mem_append.mp hsegment with hsegment | hsegment
    · exact hp.segments segment hsegment
    · exact List.mem_singleton.mp hsegment ▸ hname
  before := by
    refine Argument.allOfWords_iff.mpr fun arg harg => ?_
    rcases List.mem_append.mp harg with harg | harg
    · exact Argument.allOfWords_iff.mp hp.before arg harg
    · exact Argument.allOfWords_iff.mp hp.args arg harg
  args := hargs

/-- **A path is made of words.** -/
theorem gives_path (hg : g.TypesOfWords) (inExpression : Bool) :
    (path g inExpression).Gives PathForm.OfWords := by
  rw [path]
  refine gives_bind fun rooted => (gives_segment hg inExpression).bind fun first hfirst => ?_
  have hstart : (⟨false, rooted, [], [], [], true, true⟩ : PathForm).OfWords :=
    ⟨fun segment hsegment => absurd hsegment List.not_mem_nil, trivial, trivial⟩
  refine gives_repeating PathForm.OfWords (hstart.add hfirst.1 hfirst.2) fun p hp => ?_
  refine gives_bind fun continues => gives_ite ?_ (gives_pure hp)
  exact gives_bind fun _ => (gives_segment hg inExpression).bind fun next hnext =>
    gives_pure (hp.add hnext.1 hnext.2)

/-- A path that may start with a type is made of words as well. -/
theorem gives_qualifiedPath (hg : g.TypesOfWords) (inExpression : Bool) :
    (qualifiedPath g inExpression).Gives PathForm.OfWords := by
  have hstart : (⟨true, false, [], [], [], true, true⟩ : PathForm).OfWords :=
    ⟨fun segment hsegment => absurd hsegment List.not_mem_nil, trivial, trivial⟩
  have hrest : (do
      operator ">"
      operator "::"
      repeating (PathForm.add ⟨true, false, [], [], [], true, true⟩ (← segment g inExpression))
        fun p => do
          if ← operator? "::" then return .inl (p.add (← segment g inExpression))
          else return .inr p : Reader PathForm).Gives PathForm.OfWords := by
    refine gives_bind fun _ => gives_bind fun _ => (gives_segment hg _).bind fun first hfirst => ?_
    refine gives_repeating PathForm.OfWords (hstart.add hfirst.1 hfirst.2) fun p hp => ?_
    refine gives_bind fun continues => gives_ite ?_ (gives_pure hp)
    exact (gives_segment hg _).bind fun next hnext => gives_pure (hp.add hnext.1 hnext.2)
  rw [qualifiedPath]
  refine gives_bind fun isType => gives_ite (gives_path hg inExpression) ?_
  refine gives_bind fun _ => gives_bind fun ofTrait => gives_ite ?_ hrest
  exact gives_bind fun _ => hrest

theorem gives_result? (hg : g.TypesOfWords) (allowSum : Bool) :
    (result? g allowSum).Gives fun result => ∀ term ∈ result, term.OfWords := by
  rw [result?]
  refine gives_bind fun isWritten => gives_ite ?_ ?_
  · refine (hg allowSum).bind fun term hterm => gives_pure fun found hfound => ?_
    exact Option.some.inj hfound ▸ hterm
  · exact gives_pure fun found hfound => nomatch hfound

/-! ## Types -/

/-- Whether what a group in parentheses holds, if it is one type, is made of words. -/
def ParenthesizedType.OfWords : ParenthesizedType → Prop
  | .single inner => inner.OfWords
  | _ => True

theorem gives_parenthesizedContent (hg : g.TypesOfWords) :
    (parenthesizedContent g).Gives ParenthesizedType.OfWords := by
  rw [parenthesizedContent]
  refine gives_bind fun isEmpty => gives_ite (gives_pure trivial) ?_
  refine gives_bind fun isLifetime => gives_ite ?_ ?_
  · exact gives_bind fun _ => gives_bind fun found => gives_pure trivial
  refine gives_bind fun isRelaxed => gives_ite (gives_bind fun _ => gives_pure trivial) ?_
  refine (hg true).bind fun inner hinner => gives_bind fun isTuple => gives_ite ?_ ?_
  · exact gives_bind fun _ => gives_pure trivial
  · exact gives_pure hinner

/-- A type in parentheses is made of words. -/
theorem gives_parenthesizedType (hg : g.TypesOfWords) (allowSum : Bool) :
    (parenthesizedType g allowSum).Gives fun form => ∀ term ∈ form, term.OfWords := by
  have hnone : ∀ term ∈ (none : Option TypeTerm), term.OfWords := fun term hterm => nomatch hterm
  rw [parenthesizedType]
  refine ((gives_parenthesizedContent hg).group .parenthesis).bind fun found hfound => ?_
  cases found with
  | unit =>
      refine gives_pure fun term hterm => ?_
      cases hterm
      trivial
  | tuple => exact gives_pure hnone
  | bound => exact gives_bind fun _ => gives_pure hnone
  | single inner =>
      have hinner : ∀ term ∈ some (TypeTerm.parenthesized inner), term.OfWords := by
        intro term hterm
        cases hterm
        exact hfound
      exact gives_bind fun isSum => gives_ite (gives_bind fun _ => gives_pure hnone)
        (gives_pure hinner)

/-- A path, where it is a type, is made of words. -/
theorem gives_pathType (hg : g.TypesOfWords) (allowSum bound : Bool) :
    (pathType g allowSum bound).Gives fun form => ∀ term ∈ form, term.OfWords := by
  have hnone : ∀ term ∈ (none : Option TypeTerm), term.OfWords := fun term hterm => nomatch hterm
  rw [pathType]
  refine (gives_qualifiedPath hg false).bind fun p hp => gives_ite (gives_pure hnone) ?_
  refine gives_bind fun isCall => gives_ite ?_ ?_
  · exact gives_bind fun _ => gives_bind fun _ => gives_pure hnone
  refine gives_bind fun isSum => gives_ite ?_ ?_
  · exact gives_optional (gives_pure hnone)
  · refine gives_pure fun term hterm => ?_
    cases hterm
    exact ⟨hp.segments, hp.before, hp.args⟩

theorem gives_bracketType (hg : g.TypesOfWords) :
    (bracketType g).Gives fun form => ∀ term ∈ form, term.OfWords := by
  refine Gives.group .bracket ((hg true).bind fun element helement => ?_)
  refine gives_bind fun isArray => gives_ite ?_ ?_
  · exact gives_bind fun _ => gives_pure fun term hterm => nomatch hterm
  · refine gives_pure fun term hterm => ?_
    cases hterm
    exact helement

/-- A type without parameters of its own is made of words. -/
theorem gives_unboundType (hg : g.TypesOfWords) (allowSum : Bool) :
    (unboundType g allowSum).Gives fun form => ∀ term ∈ form, term.OfWords := by
  have hnone : (pure none : Reader (Option TypeTerm)).Gives
      fun form => ∀ term ∈ form, term.OfWords := gives_pure fun term hterm => nomatch hterm
  rw [unboundType]
  refine gives_bind fun isObject => gives_ite ?_ ?_
  · exact gives_bind fun _ => gives_bind fun _ => gives_bind fun _ => gives_bind fun _ => hnone
  refine gives_bind fun isBracket => gives_ite (gives_bracketType hg) ?_
  refine gives_bind fun isPointer => gives_ite (gives_bind fun _ => hnone) ?_
  refine gives_bind fun isReference => gives_ite (gives_bind fun _ => hnone) ?_
  refine gives_bind fun isNever => gives_ite (gives_bind fun _ => hnone) ?_
  refine gives_bind fun isOpaque => gives_ite ?_ ?_
  · exact gives_bind fun _ => gives_bind fun _ => gives_bind fun _ => hnone
  refine gives_bind fun isBlank => gives_ite (gives_bind fun _ => hnone) ?_
  refine gives_bind fun isLifetime => gives_ite ?_ gives_fail
  exact gives_bind fun _ => gives_bind fun _ => hnone

theorem gives_typeForm (hg : g.TypesOfWords) (allowSum : Bool) :
    (typeForm g allowSum).Gives fun form => ∀ term ∈ form, term.OfWords := by
  rw [typeForm]
  refine gives_bind fun bound => gives_bind fun isNamed => gives_ite gives_fail ?_
  refine gives_bind fun isParenthesized => gives_ite (gives_parenthesizedType hg allowSum) ?_
  refine gives_bind fun isFunction => gives_ite ?_ ?_
  · exact gives_bind fun _ => gives_pure fun term hterm => nomatch hterm
  · exact gives_bind fun isPath => gives_ite (gives_pathType hg allowSum bound)
      (gives_unboundType hg allowSum)

/-- **A type is made of words**, if the types within it are. -/
theorem gives_anyType (hg : g.TypesOfWords) (allowSum : Bool) :
    (anyType g allowSum).Gives TypeTerm.OfWords := by
  refine (gives_typeForm hg allowSum).withText.bind fun found hfound => gives_pure ?_
  obtain ⟨form, text⟩ := found
  cases form with
  | none => trivial
  | some term => exact hfound term rfl

end Grammar
end Source
end FixtureFactory
