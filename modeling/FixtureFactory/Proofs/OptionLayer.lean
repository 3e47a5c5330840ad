import FixtureFactory.Catalogue
import FixtureFactory.Proofs.AdapterLookup
import FixtureFactory.Proofs.Scanning
import FixtureFactory.Proofs.ValueTexts

/-!
# The option layer of a default value

A default value has to fit the type of its field, so it must be wrapped in `Some` exactly when the
type is an option and the value is not one already.  Two flags decide this, one of the type and one
of the target of the adapter that the value is taken from, and they meet only in a look-up that goes
by texts and simple names.  This file proves that the layers fit, whatever the adapters are and
whatever is drawn.

* `DefaultValue.run_generate_cases` takes a generated default value apart: the coin, the value, the
  wrapping.
* `DefaultValue.layer_of_run_generate` is the result.  The paths of the field and of the adapters
  have to be plain; `AdapterLookup` says what for.
-/

namespace FixtureFactory

open Build

/-! ## Layers of parameters -/

/-- A parameter without the option layer of its type. -/
def Parameter.required (p : Parameter) : Parameter := { p with type := p.type.required }

section Classification

variable {host : Host} {adapters : AdapterRegistry} {naming : Naming} {owner : String}
  {field : Field} {p : Parameter}

theorem nullable_of_classify (h : classify host adapters naming owner field = .ok p) :
    p.type.nullable = field.type.nullable := by
  rcases classify_cases h with ⟨-, htype, -⟩ | ⟨d, kind, -, -, rfl⟩
  · rw [htype]
  · rfl

theorem type_of_classify_adapterSupplied (h : classify host adapters naming owner field = .ok p)
    (hkind : p.kind = .adapterSupplied) : p.type = field.type := by
  rcases classify_cases h with ⟨-, htype, -⟩ | ⟨d, kind, -, hdeclared, rfl⟩
  · exact htype
  · rcases declaredKind?_cases hdeclared with ⟨-, ref, -, rfl⟩ | rfl | ⟨entries, rfl, -⟩ <;>
      cases hkind

theorem isPlainPath_of_classify (hfield : IsPlainPath field.type.path)
    (h : classify host adapters naming owner field = .ok p) (hkind : p.kind = .adapterSupplied) :
    IsPlainPath p.type.path :=
  type_of_classify_adapterSupplied h hkind ▸ hfield

end Classification

namespace DefaultValue

variable {randomize already : Bool} {r : AdapterRegistry} {p : Parameter} {text : String}
  {s s' : RandomSource}

/-! ## The value -/

theorem value_required (h : p.kind = .adapterSupplied → r.find? p.type.required = r.find? p.type) :
    value randomize r p.required = value randomize r p := by
  obtain ⟨name, type, kind⟩ := p
  cases kind with
  | adapterSupplied =>
      have hfind : r.find? type.required = r.find? type := h rfl
      simp only [value, Parameter.required, hfind, TypeRef.renderRequired_required]
  | _ => rfl

/-! ## The default value -/

/-- **Where a default value comes from**: the coin said that there is none, or it is the value with
the option layer of the type. -/
theorem run_generate_cases (h : (generate randomize r p).run s = (.ok text, s')) :
    (absent randomize p.type s = (true, s') ∧ text = "None") ∨
    ∃ v s₁, absent randomize p.type s = (false, s₁) ∧
      (value randomize r p).run s₁ = (.ok v, s') ∧ text = wrap p.type v.1 v.2 := by
  rw [generate, run_bind, run_draw] at h
  rcases hcoin : absent randomize p.type s with ⟨_ | _, s₁⟩
  · simp only [hcoin, Bool.false_eq_true, if_false] at h
    rw [run_bind] at h
    rcases hv : (value randomize r p).run s₁ with ⟨e | v, s₂⟩
    · rw [hv] at h
      cases h
    · rw [hv] at h
      cases h
      exact Or.inr ⟨v, s₁, rfl, hv, rfl⟩
  · simp only [hcoin, if_true] at h
    cases h
    exact Or.inl ⟨rfl, rfl⟩

theorem absent_of_required {type : TypeRef} (h : type.nullable = false) :
    absent randomize type = pure false := by
  rw [absent, h]
  rfl

theorem randomize_of_absent {type : TypeRef} (h : absent randomize type s = (true, s')) :
    randomize = true := by
  cases randomize with
  | true => rfl
  | false =>
      rw [absent, Bool.and_false] at h
      cases h

theorem wrap_of_required {type : TypeRef} (h : type.nullable = false) :
    wrap type text already = text := by
  rw [wrap, h]
  rfl

theorem wrap_of_optional {type : TypeRef} (h : type.nullable = true) :
    wrap type text already = if already then text else "Some(" ++ text ++ ")" := by
  rw [wrap, h]
  cases already <;> rfl

theorem run_generate_of_required (hrequired : p.type.nullable = false)
    (hvalue : (value randomize r p).run s = (.ok (text, already), s')) :
    (generate randomize r p).run s = (.ok text, s') := by
  rw [generate, absent_of_required hrequired]
  show ((value randomize r p) >>= fun v => (pure (wrap p.type v.1 v.2) : Build String)).run s = _
  rw [run_bind, hvalue]
  show (Except.ok (wrap p.type text already), s') = _
  rw [wrap_of_required hrequired]

/-! ## The layers fit -/

section Layers

variable {host : Host} {naming : Naming} {owner : String} {field : Field} {as : List Adapter}

theorem eq_of_adapter? {a : Adapter} (ha : p.adapter? r = some a)
    (h : Yields (value randomize r p) (text, already)) :
    text = a.call ∧ a.target.nullable = already := by
  rcases cases_of_yields_value h with ⟨hkind, -, -⟩ | ⟨b, hb, hv⟩
  · exact absurd (Parameter.adapter?_eq_some_iff.mp ha).1 hkind
  · cases hb.symm.trans ha
    exact ⟨congrArg Prod.fst hv, (congrArg Prod.snd hv).symm⟩

theorem exists_adapter?_of_already (h : Yields (value randomize r p) (text, true)) :
    ∃ a, p.adapter? r = some a := by
  rcases cases_of_yields_value h with ⟨-, -, halready⟩ | ⟨a, ha, -⟩
  · cases halready
  · exact ⟨a, ha⟩

/-- **No value of a type that is no option is an option already**: an adapter that supplies an
option is not found for such a type. -/
theorem already_of_required (has : ∀ a ∈ as, IsPlainPath a.target.path)
    (hpath : p.kind = .adapterSupplied → IsPlainPath p.type.path)
    (hrequired : p.type.nullable = false)
    (h : Yields (value randomize (AdapterRegistry.ofList as) p) (text, already)) :
    already = false := by
  cases already with
  | false => rfl
  | true =>
      obtain ⟨a, ha⟩ := exists_adapter?_of_already h
      obtain ⟨hkind, hfind⟩ := Parameter.adapter?_eq_some_iff.mp ha
      have hoption := AdapterRegistry.nullable_of_find? has (hpath hkind) hfind
        (eq_of_adapter? ha h).2
      exact hoption.symm.trans hrequired

/-- **A value that is no option yet** is the value for the type within the option too: an adapter
that does not supply an option is found for both. -/
theorem value_required_of_yields (has : ∀ a ∈ as, IsPlainPath a.target.path)
    (hpath : p.kind = .adapterSupplied → IsPlainPath p.type.path)
    (h : Yields (value randomize (AdapterRegistry.ofList as) p) (text, false)) :
    value randomize (AdapterRegistry.ofList as) p.required =
      value randomize (AdapterRegistry.ofList as) p := by
  refine value_required fun hkind => ?_
  rcases cases_of_yields_value h with ⟨hne, -, -⟩ | ⟨a, ha, -⟩
  · exact absurd hkind hne
  · obtain ⟨-, hfind⟩ := Parameter.adapter?_eq_some_iff.mp ha
    rw [hfind]
    exact AdapterRegistry.find?_required_of_find? has (hpath hkind) hfind (eq_of_adapter? ha h).2

/-- **A default value has exactly the option layer of its field.**  Where the type is no option,
the default value is the value itself, and neither is it `None` nor comes it from an adapter that
supplies an option.  Where the type is an option, the default value is `None`, which takes a coin,
or it is `Some` of the default value for the type within the option, or it is the call of an adapter
that supplies the option itself.

The three ways of an optional type exclude `Some` around an option: what is wrapped is a value of
the type within the option, and if an adapter makes it, then one that supplies no option. -/
theorem layer_of_run_generate (has : ∀ a ∈ as, IsPlainPath a.target.path)
    (hfield : IsPlainPath field.type.path)
    (hclassify : classify host (AdapterRegistry.ofList as) naming owner field = .ok p)
    (hrun : (generate randomize (AdapterRegistry.ofList as) p).run s = (.ok text, s')) :
    p.type.nullable = field.type.nullable ∧
    (p.type.nullable = false →
      (value randomize (AdapterRegistry.ofList as) p).run s = (.ok (text, false), s') ∧
      text ≠ "None" ∧
      ∀ a, p.adapter? (AdapterRegistry.ofList as) = some a →
        text = a.call ∧ a.target.nullable = false) ∧
    (p.type.nullable = true →
      (randomize = true ∧ absent randomize p.type s = (true, s') ∧ text = "None") ∨
      (∃ v s₁, absent randomize p.type s = (false, s₁) ∧
        (generate randomize (AdapterRegistry.ofList as) p.required).run s₁ = (.ok v, s') ∧
        text = "Some(" ++ v ++ ")" ∧
        ∀ a, p.adapter? (AdapterRegistry.ofList as) = some a →
          v = a.call ∧ a.target.nullable = false) ∨
      (∃ a, p.adapter? (AdapterRegistry.ofList as) = some a ∧
        a.target.nullable = true ∧ text = a.call)) := by
  have hpath := isPlainPath_of_classify hfield hclassify
  refine ⟨nullable_of_classify hclassify, fun hrequired => ?_, fun hoption => ?_⟩
  · rcases run_generate_cases hrun with ⟨hcoin, -⟩ | ⟨⟨v, already⟩, s₁, hcoin, hvalue, htext⟩
    · rw [absent_of_required hrequired] at hcoin
      cases hcoin
    · rw [absent_of_required hrequired] at hcoin
      cases hcoin
      rw [wrap_of_required hrequired] at htext
      have hyields : Yields _ (v, already) := ⟨s, s', hvalue⟩
      have halready : already = false := already_of_required has hpath hrequired hyields
      rw [htext, ← halready]
      exact ⟨hvalue, ne_none_of_yields_value hyields, fun a ha => eq_of_adapter? ha hyields⟩
  · rcases run_generate_cases hrun with ⟨hcoin, htext⟩ | ⟨⟨v, already⟩, s₁, hcoin, hvalue, htext⟩
    · exact Or.inl ⟨randomize_of_absent hcoin, hcoin, htext⟩
    · rw [wrap_of_optional hoption] at htext
      have hyields : Yields _ (v, already) := ⟨s₁, s', hvalue⟩
      cases already with
      | false =>
          have hwithin := value_required_of_yields has hpath hyields
          refine Or.inr (Or.inl ⟨v, s₁, hcoin, ?_, htext, fun a ha => eq_of_adapter? ha hyields⟩)
          exact run_generate_of_required rfl (hwithin ▸ hvalue)
      | true =>
          obtain ⟨a, ha⟩ := exists_adapter?_of_already hyields
          obtain ⟨hcall, htarget⟩ := eq_of_adapter? ha hyields
          exact Or.inr (Or.inr ⟨a, ha, htarget, htext.trans hcall⟩)

end Layers

/-- Two adapters for one type, one of which supplies it as an option. -/
def moneyAdapters : List Adapter :=
  [⟨"crate", "money", .named "crate::Money", ⟨"src/lib.rs", 1, 1⟩⟩,
   ⟨"crate", "maybe_money", .optional (.named "crate::Money"), ⟨"src/lib.rs", 2, 1⟩⟩]

/-- Where a type has adapters with and without the option, an optional field that the coin leaves
present gets the bare call of the former. -/
theorem layer_of_run_generate_money :
    let r := AdapterRegistry.ofList moneyAdapters
    let field : Field := ⟨"discount", .optional (.named "crate::Money")⟩
    let p : Parameter := ⟨"discount", field.type, .adapterSupplied⟩
    let s : RandomSource := ⟨fun _ => 4294967295, 0⟩
    (∀ a ∈ moneyAdapters, IsPlainPath a.target.path) ∧ IsPlainPath field.type.path ∧
    classify Catalogue.empty.toHost r ⟨Naming.defaultRoot⟩ "crate::Order" field = .ok p ∧
    (generate true r p).run s = (.ok "crate::maybe_money()", ⟨s.word, 2⟩) ∧
    ∃ a, p.adapter? r = some a ∧ a.target.nullable = true ∧ "crate::maybe_money()" = a.call := by
  intro r field p s
  have hmoney : IsPlainPath "crate::Money" := by decide
  have hadapters : ∀ a ∈ moneyAdapters, IsPlainPath a.target.path :=
    List.forall_mem_cons.mpr ⟨hmoney, List.forall_mem_singleton.mpr hmoney⟩
  have hclassify : classify Catalogue.empty.toHost r ⟨Naming.defaultRoot⟩ "crate::Order" field =
      .ok p := rfl
  have hrun : (generate true r p).run s =
      (.ok "crate::maybe_money()", ⟨s.word, 2⟩) := by
    have hcoin : absent true p.type s = (false, ⟨s.word, 2⟩) := Prod.ext (by decide) rfl
    rw [generate, run_bind, run_draw, hcoin]
    rfl
  refine ⟨hadapters, hmoney, hclassify, hrun, ?_⟩
  rcases (layer_of_run_generate hadapters hmoney hclassify hrun).2.2 rfl with
    ⟨-, -, htext⟩ | ⟨v, s₁, -, -, -, hadapter⟩ | hsupplied
  · exact absurd htext (by decide)
  · cases (hadapter _ rfl).2
  · exact hsupplied

end DefaultValue
end FixtureFactory
