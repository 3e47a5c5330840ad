import FixtureFactory.Source.Reader

/-!
# What readers give

What a source is read as has properties that nothing but the reading sees to: the scopes and the
index take every text as a name.  `Reader.Gives r P` says that whatever a reader gives has a
property, whatever it reads.  It is closed under everything that readers are made of, so the rules
of the grammar need to be gone through only once.

* `Source.Reader.Gives.bind`, `Source.Reader.gives_repeating`: readers one after the other, and the
  repetition of a step that keeps an invariant.
* `Source.Reader.gives_anyWord`, `Source.Reader.gives_name`: a word is made of the characters of
  names, and a name is no keyword.
-/

namespace FixtureFactory
namespace Source

/-- Whether a text is made of the characters of names. -/
def IsWordText (text : String) : Prop := ∀ c ∈ text.toList, isNameCharacter c = true

/-- Whether a text can be the name of something. -/
def IsName (text : String) : Prop := IsWordText text ∧ text ∉ Lookahead.keywords

/-! ## What readers give -/

section Gives

variable {α β σ : Type} {P : α → Prop} {Q : β → Prop}

/-- Whether whatever a reader gives has a property. -/
def Reader.Gives (r : Reader α) (P : α → Prop) : Prop :=
  ∀ c a c', r.run c = .ok (a, c') → P a

namespace Reader

theorem gives_pure {a : α} (h : P a) : (pure a : Reader α).Gives P := by
  intro c a' c' hrun
  cases hrun
  exact h

theorem gives_failAt (p : Position) : (failAt p : Reader α).Gives P := by
  intro c a c' hrun
  cases hrun

theorem gives_fail : (fail : Reader α).Gives P := by
  intro c a c' hrun
  cases hrun

/-- Two readers one after the other. -/
theorem Gives.bind {r : Reader α} {f : α → Reader β} (hr : r.Gives P)
    (hf : ∀ a, P a → (f a).Gives Q) : (r >>= f).Gives Q := by
  intro c b c' hrun
  rw [StateT.run_bind] at hrun
  cases hfirst : r.run c with
  | error e =>
      rw [hfirst] at hrun
      cases hrun
  | ok found =>
      obtain ⟨a, c₁⟩ := found
      rw [hfirst] at hrun
      exact hf a (hr c a c₁ hfirst) c₁ b c' hrun

theorem gives_bind {r : Reader α} {f : α → Reader β} (hf : ∀ a, (f a).Gives Q) :
    (r >>= f).Gives Q :=
  Gives.bind (P := fun _ => True) (fun _ _ _ _ => trivial) fun a _ => hf a

theorem gives_ite {c : Prop} [Decidable c] {r r' : Reader α} (h : r.Gives P) (h' : r'.Gives P) :
    (if c then r else r').Gives P := by
  split
  · exact h
  · exact h'

theorem gives_optional {c : Prop} [Decidable c] {r : Reader α} {next : Reader β}
    (h : next.Gives Q) : (if c then r >>= fun _ => next else next).Gives Q :=
  gives_ite (gives_bind fun _ => h) h

theorem gives_either {c : Prop} [Decidable c] {r r' : Reader α} {next : α → Reader β}
    (h : ∀ a, (next a).Gives Q) : (if c then r >>= next else r' >>= next).Gives Q :=
  gives_ite (gives_bind h) (gives_bind h)

/-- What a group gives is what the reader of its inside gives. -/
theorem Gives.group {r : Reader α} (d : Delimiter) (h : r.Gives P) : (group d r).Gives P := by
  refine gives_bind fun c => ?_
  split
  · split
    · refine Gives.bind (P := fun found => P found.1) ?_ fun found hfound => ?_
      · intro c' found c'' hrun
        cases hinside : r.run _ with
        | error e =>
            rw [hinside] at hrun
            cases hrun
        | ok inside =>
            rw [hinside] at hrun
            cases hrun
            exact h _ _ _ hinside
      · exact gives_bind fun _ => gives_pure hfound
    · exact gives_fail
  · exact gives_fail

/-- **A repetition gives what its last step gives**, if its steps keep an invariant. -/
theorem gives_repeating {s : σ} {step : σ → Reader (σ ⊕ α)} (Inv : σ → Prop) (hs : Inv s)
    (hstep : ∀ s, Inv s → (step s).Gives (Sum.elim Inv P)) : (repeating s step).Gives P := by
  have hiterate : ∀ fuel s, Inv s → (iterate step fuel s).Gives P := by
    intro fuel
    induction fuel with
    | zero => exact fun s _ => gives_fail
    | succ fuel ih =>
        intro s hs
        refine Gives.bind (hstep s hs) fun found hfound => ?_
        cases found with
        | inl s' => exact ih s' hfound
        | inr a => exact gives_pure hfound
  exact gives_bind fun c => hiterate _ s hs

/-- **The items up to a stop** all have the property that an item has. -/
theorem gives_manyUntil {item : Reader α} (stop : Lookahead) (h : item.Gives P) :
    (manyUntil stop item).Gives fun found => ∀ a ∈ found, P a := by
  refine gives_repeating (fun found => ∀ a ∈ found, P a) (fun a ha => absurd ha List.not_mem_nil)
    fun found hfound => gives_bind fun stops => gives_ite ?_ ?_
  · exact gives_pure fun a ha => hfound a (List.mem_reverse.mp ha)
  · exact h.bind fun a ha => gives_pure (List.forall_mem_cons.mpr ⟨ha, hfound⟩)

theorem gives_separated {item : Reader α} (stop : Lookahead) (separator : String)
    (h : item.Gives P) : (separated stop separator item).Gives fun found => ∀ a ∈ found, P a := by
  refine gives_repeating (fun found => ∀ a ∈ found, P a) (fun a ha => absurd ha List.not_mem_nil)
    fun found hfound => gives_bind fun stops => gives_ite ?_ ?_
  · exact gives_pure fun a ha => hfound a (List.mem_reverse.mp ha)
  · refine h.bind fun a ha => gives_bind fun stops => gives_ite ?_ ?_
    · exact gives_pure fun b hb =>
        (List.forall_mem_cons.mpr ⟨ha, hfound⟩) b (List.mem_reverse.mp hb)
    · exact gives_bind fun _ => gives_pure (List.forall_mem_cons.mpr ⟨ha, hfound⟩)

theorem Gives.withText {r : Reader α} (h : r.Gives P) : (withText r).Gives fun found => P found.1 :=
  gives_bind fun _ => gives_bind fun _ => h.bind fun _ ha =>
    gives_bind fun _ => gives_bind fun _ => gives_pure ha

/-! ## Names -/

/-- A word that is taken stood next. -/
theorem rest_of_run_anyWord {c c' : Cursor} {text : String} (h : anyWord.run c = .ok (text, c')) :
    ∃ start w tail, c.rest = .leaf start (.word w) :: tail ∧ text = w.text := by
  obtain ⟨rest, limit, pieces, unread, endsInBrace⟩ := c
  rcases rest with _ | ⟨⟨start, token⟩ | _, tail⟩
  · cases h
  · cases token with
    | word w =>
        cases h
        exact ⟨start, w, tail, rfl, rfl⟩
    | _ => cases h
  · cases h

/-- **The text of a word** is made of the characters of names. -/
theorem gives_anyWord : anyWord.Gives IsWordText := by
  intro c text c' hrun
  obtain ⟨start, w, tail, -, rfl⟩ := rest_of_run_anyWord hrun
  exact w.isNameCharacter

/-- **A word that is taken if a question is answered yes** is one for which it is. -/
theorem Gives.of_ahead {ask : Lookahead} {P : String → Prop}
    (h : ∀ start w tail, ask (.leaf start (.word w) :: tail) = true → P w.text) :
    (do if ← ahead ask then anyWord else fail : Reader String).Gives P := by
  intro c text c' hrun
  have hrun : (if ask c.rest = true then anyWord else fail : Reader String).run c =
      .ok (text, c') := hrun
  by_cases hask : ask c.rest = true
  · rw [if_pos hask] at hrun
    obtain ⟨start, w, tail, hrest, rfl⟩ := rest_of_run_anyWord hrun
    rw [hrest] at hask
    exact h start w tail hask
  · rw [if_neg hask] at hrun
    cases hrun

/-- **A name is a word, and no keyword.** -/
theorem gives_name : name.Gives IsName :=
  Gives.of_ahead fun start w tail hname => by
    refine ⟨w.isNameCharacter, fun hkeyword => ?_⟩
    rw [Lookahead.name, List.contains_iff_mem.mpr hkeyword] at hname
    cases hname

theorem gives_nameOrBlank : nameOrBlank.Gives fun text => text = "_" ∨ IsName text :=
  Gives.of_ahead fun start w tail hask => by
    rw [Lookahead.or, Lookahead.name, Lookahead.word, Bool.or_eq_true, beq_iff_eq] at hask
    refine hask.symm.imp_right fun hname => ⟨w.isNameCharacter, fun hkeyword => ?_⟩
    rw [List.contains_iff_mem.mpr hkeyword] at hname
    cases hname

end Reader

end Gives

end Source
end FixtureFactory
