import StaticPages.Proofs.Filter.Binding

namespace StaticPages.Filter

open Token

/-- The labels of arguments in their order. -/
def Argument.labels (arguments : List Argument) : List String :=
  arguments.filterMap Argument.label

@[simp] theorem Argument.labels_nil : labels [] = [] := rfl

@[simp] theorem Argument.labels_labelled (label value : String) (rest : List Argument) :
    labels (⟨some label, value⟩ :: rest) = label :: labels rest := rfl

@[simp] theorem Argument.labels_unlabelled (value : String) (rest : List Argument) :
    labels (⟨none, value⟩ :: rest) = labels rest := rfl

namespace Name

theorem ofText?_eq_some_iff {written : String} {name : Name} :
    ofText? written = some name ↔ written.toList.map Char.toLower = name.toText.toList := by
  unfold ofText?
  dsimp only
  constructor
  · intro h
    have hfound := List.find?_some h
    exact (beq_iff_eq.mp hfound).symm
  · intro h
    rw [h]
    cases name <;> rfl

/-- Whether the arguments fit the parameters of a filter: an unlabelled one comes first and
    has a parameter to go to, and the labels are parameters, each at most once. -/
@[mk_iff]
structure Fits (name : Name) (arguments : List Argument) : Prop where
  unlabelled : ∀ a, arguments.head? = some a → a.label = none → name.positional ≠ none
  labelled : ∀ a ∈ arguments.tail, a.label ≠ none
  labels : ∀ label ∈ Argument.labels arguments, label ∈ name.parameters
  distinct : (Argument.labels arguments).Nodup

/-- Whether a filter takes arguments. Of the values for a parameter, only the one that
    counts has to be readable. -/
structure Accepts (name : Name) (arguments : List Argument) : Prop where
  fits : name.Fits arguments
  readable : name.Readable (name.given arguments)

theorem bindLabelled_cons_eq_ok_iff {name : Name} {before bound : Bindings}
    {label value : String} {rest : List Argument} :
    name.bindLabelled before (⟨some label, value⟩ :: rest) = .ok bound ↔
      (label ∈ name.parameters ∧ before.lookup label = none) ∧
        name.bindLabelled (before ++ [(label, value)]) rest = .ok bound := by
  rw [bindLabelled]
  split
  · next hcontains =>
    have hlabel : label ∈ name.parameters := by simpa using hcontains
    cases before.lookup label <;> simp [hlabel]
  · next hcontains =>
    have hlabel : label ∉ name.parameters := by simpa using hcontains
    split <;> simp [hlabel]

theorem bindLabelled_succeeds_iff {name : Name} {before : Bindings} {arguments : List Argument} :
    (∃ bound, name.bindLabelled before arguments = .ok bound) ↔
      (∀ a ∈ arguments, a.label ≠ none) ∧
        (∀ label ∈ Argument.labels arguments,
          label ∈ name.parameters ∧ before.lookup label = none) ∧
        (Argument.labels arguments).Nodup := by
  induction arguments generalizing before with
  | nil => simp [bindLabelled]
  | cons a rest ih =>
    obtain ⟨label, value⟩ := a
    cases label with
    | none => simp [bindLabelled]
    | some label =>
      have hfresh (other : String) : (before ++ [(label, value)]).lookup other = none ↔
          before.lookup other = none ∧ other ≠ label := by
        rw [List.lookup_append, Option.or_eq_none_iff, Table.lookup_cons_ite]
        simp
      simp only [bindLabelled_cons_eq_ok_iff, exists_and_left, ih, hfresh]
      simp only [Argument.labels_labelled, List.forall_mem_cons, List.nodup_cons, ne_eq,
        reduceCtorEq, not_false_eq_true, true_and]
      constructor
      · rintro ⟨hlabel, hlabelled, hlabels, hdistinct⟩
        refine ⟨hlabelled, ⟨hlabel, fun other hother => ?_⟩, fun hmem => ?_, hdistinct⟩
        · exact ⟨(hlabels other hother).1, (hlabels other hother).2.1⟩
        · exact (hlabels label hmem).2.2 rfl
      · rintro ⟨hlabelled, ⟨hlabel, hlabels⟩, hnot, hdistinct⟩
        refine ⟨hlabel, hlabelled, fun other hother => ?_, hdistinct⟩
        refine ⟨(hlabels other hother).1, (hlabels other hother).2, ?_⟩
        rintro rfl
        exact hnot hother

theorem bindArguments_succeeds_iff {name : Name} {arguments : List Argument} :
    (∃ bound, name.bindArguments arguments = .ok bound) ↔ name.Fits arguments := by
  rw [fits_iff]
  cases arguments with
  | nil => simp [bindArguments, bindLabelled]
  | cons a rest =>
    obtain ⟨label, value⟩ := a
    cases label with
    | none =>
      have hbinds : (∃ bound, name.bindArguments (⟨none, value⟩ :: rest) = .ok bound) ↔
          name.positional ≠ none ∧ ∃ bound, name.bindLabelled [] rest = .ok bound := by
        rw [bindArguments]
        cases name.positional <;> cases name.bindLabelled [] rest <;> simp
      rw [hbinds, bindLabelled_succeeds_iff]
      simp
    | some label =>
      have hbinds : name.bindArguments (⟨some label, value⟩ :: rest) =
        name.bindLabelled [] (⟨some label, value⟩ :: rest) := rfl
      rw [hbinds, bindLabelled_succeeds_iff]
      simp

/-- A name and arguments make a filter exactly if the filter of this name takes them, and
    then the one with the values that count. -/
theorem apply_eq_ok_iff {name : Name} {arguments : List Argument} {filter : Filter} :
    name.apply arguments = .ok filter ↔
      name.Accepts arguments ∧ filter = name.fill (name.given arguments) := by
  unfold apply
  cases hbound : name.bindArguments arguments with
  | ok bound =>
    have hfits := bindArguments_succeeds_iff.mp ⟨bound, hbound⟩
    have haccepts : name.Accepts arguments ↔ name.Readable (name.given arguments) :=
      ⟨Accepts.readable, fun hreadable => ⟨hfits, hreadable⟩⟩
    rw [haccepts]
    exact build_eq_ok_iff (lookup_bindArguments hbound)
  | error p =>
    have hnot : ¬ name.Fits arguments := by
      rw [← bindArguments_succeeds_iff, hbound]
      nofun
    simp only [reduceCtorEq, false_iff, not_and]
    exact fun haccepts => absurd haccepts.fits hnot

/-- Where no label occurs twice, a label gives the value that stands behind it. -/
theorem labelled_eq_some_iff {arguments : List Argument}
    (hdistinct : (Argument.labels arguments).Nodup) {parameter value : String} :
    labelled arguments parameter = some value ↔ ⟨some parameter, value⟩ ∈ arguments := by
  induction arguments with
  | nil => simp [labelled]
  | cons a rest ih =>
    obtain ⟨label, text⟩ := a
    rw [labelled_cons]
    cases label with
    | none =>
      rw [if_neg (by simp), ih hdistinct]
      simp
    | some label =>
      obtain ⟨hnot, hrest⟩ := List.nodup_cons.mp hdistinct
      by_cases hlabel : label = parameter
      · subst hlabel
        have hrest : (⟨some label, value⟩ : Argument) ∉ rest :=
          fun hmem => hnot (List.mem_filterMap.mpr ⟨_, hmem, rfl⟩)
        simp [hrest, eq_comm]
      · simp [hlabel, ih hrest, Ne.symm hlabel]

theorem unlabelled_eq_some_iff {name : Name} {arguments : List Argument}
    {parameter value : String} :
    name.unlabelled arguments parameter = some value ↔
      arguments.head? = some ⟨none, value⟩ ∧ name.positional = some parameter := by
  unfold unlabelled
  split
  · simp [and_comm]
  · next hlabels =>
    simp only [reduceCtorEq, false_iff, not_and]
    intro hhead
    obtain ⟨rest, hrest⟩ := List.head?_eq_some_iff.mp hhead
    exact absurd hrest (hlabels _ _)

theorem labelled_isSome_iff {arguments : List Argument} {parameter : String} :
    (labelled arguments parameter).isSome = true ↔ parameter ∈ Argument.labels arguments := by
  induction arguments with
  | nil => simp [labelled]
  | cons a rest ih =>
    obtain ⟨label, value⟩ := a
    rw [labelled_cons]
    cases label with
    | none =>
      rw [if_neg (by simp), ih]
      simp
    | some label =>
      by_cases hlabel : label = parameter
      · simp [hlabel]
      · simp [hlabel, ih, Ne.symm hlabel]

/-- An unlabelled argument among those that fit is the first of them. -/
theorem Fits.head?_eq {name : Name} {arguments : List Argument} (h : name.Fits arguments)
    {value : String} (hmem : ⟨none, value⟩ ∈ arguments) :
    arguments.head? = some ⟨none, value⟩ := by
  cases arguments with
  | nil => cases hmem
  | cons first rest =>
    rcases List.mem_cons.mp hmem with rfl | hmem
    · rfl
    · exact absurd rfl (h.labelled _ hmem)

end Name

/-- Whether two lists hold the same arguments, where an unlabelled one at the front of
    either is at the front of both. -/
structure Reordered (given moved : List Argument) : Prop where
  perm : given.Perm moved
  front : ∀ value, given.head? = some ⟨none, value⟩ ↔ moved.head? = some ⟨none, value⟩

namespace Reordered

variable {name : Name} {given moved : List Argument}

theorem symm (h : Reordered given moved) : Reordered moved given :=
  ⟨h.perm.symm, fun value => (h.front value).symm⟩

theorem labels (h : Reordered given moved) :
    (Argument.labels given).Perm (Argument.labels moved) :=
  h.perm.filterMap Argument.label

/-- Where no label occurs twice, the order decides none of the values that count. -/
theorem given_eq (h : Reordered given moved) (hdistinct : (Argument.labels given).Nodup) :
    name.given given = name.given moved := by
  have hmoved : (Argument.labels moved).Nodup := h.labels.nodup_iff.mp hdistinct
  funext parameter
  have hlabelled : Name.labelled given parameter = Name.labelled moved parameter := by
    ext value
    rw [Name.labelled_eq_some_iff hdistinct, Name.labelled_eq_some_iff hmoved, h.perm.mem_iff]
  have hunlabelled : name.unlabelled given parameter = name.unlabelled moved parameter := by
    ext value
    rw [Name.unlabelled_eq_some_iff, Name.unlabelled_eq_some_iff, h.front]
  rw [Name.given, Name.given, hlabelled, hunlabelled]

theorem fits (h : Reordered given moved) (hfits : name.Fits given) : name.Fits moved where
  unlabelled a ha hnone := by
    obtain ⟨label, value⟩ := a
    subst hnone
    exact hfits.unlabelled _ ((h.front value).mpr ha) rfl
  labelled a ha hnone := by
    obtain ⟨label, value⟩ := a
    subst hnone
    -- Both lists begin with it, so what is left of them holds it again.
    have hfront := hfits.head?_eq (h.perm.mem_iff.mpr (List.mem_of_mem_tail ha))
    obtain ⟨others, rfl⟩ := List.head?_eq_some_iff.mp hfront
    obtain ⟨rest, rfl⟩ := List.head?_eq_some_iff.mp ((h.front value).mp hfront)
    exact hfits.labelled _ (h.perm.cons_inv.mem_iff.mpr ha) rfl
  labels label hlabel := hfits.labels label (h.labels.mem_iff.mpr hlabel)
  distinct := h.labels.nodup_iff.mp hfits.distinct

end Reordered

/-- Whether two lists differ only in an unlabelled value whose parameter also has a
    labelled one. -/
def Overridden (name : Name) (given moved : List Argument) : Prop :=
  ∃ value other labels parameter, given = ⟨none, value⟩ :: labels ∧
    moved = ⟨none, other⟩ :: labels ∧ name.positional = some parameter ∧
      parameter ∈ Argument.labels labels

namespace Overridden

variable {name : Name} {given moved : List Argument}

theorem symm (h : Overridden name given moved) : Overridden name moved given := by
  obtain ⟨value, other, labels, parameter, hgiven, hmoved, hlabel⟩ := h
  exact ⟨other, value, labels, parameter, hmoved, hgiven, hlabel⟩

theorem given_eq (h : Overridden name given moved) : name.given given = name.given moved := by
  obtain ⟨value, other, labels, positional, rfl, rfl, hpositional, hlabel⟩ := h
  funext parameter
  simp only [Name.given, Name.labelled_cons, Name.unlabelled, reduceCtorEq, if_false, hpositional,
    Option.some.injEq]
  split
  · next hparameter =>
    subst hparameter
    obtain ⟨text, htext⟩ := Option.isSome_iff_exists.mp (Name.labelled_isSome_iff.mpr hlabel)
    simp [htext]
  · rfl

theorem fits (h : Overridden name given moved) (hfits : name.Fits given) : name.Fits moved := by
  obtain ⟨value, other, labels, positional, rfl, rfl, hpositional, hlabel⟩ := h
  refine ⟨fun a ha hnone => ?_, hfits.labelled, hfits.labels, hfits.distinct⟩
  simp [hpositional]

end Overridden

namespace Name

/-- Whether two lists of arguments say the same to a filter: one is the other in another
    order, or with another value where a label overrides it. -/
def TakesAlike (name : Name) (given moved : List Argument) : Prop :=
  Reordered given moved ∨ Overridden name given moved

theorem TakesAlike.symm {name : Name} {given moved : List Argument}
    (h : name.TakesAlike given moved) : name.TakesAlike moved given :=
  h.imp Reordered.symm Overridden.symm

theorem apply_of_takesAlike {name : Name} {given moved : List Argument} {filter : Filter}
    (h : name.TakesAlike given moved) (happly : name.apply given = .ok filter) :
    name.apply moved = .ok filter := by
  rw [apply_eq_ok_iff] at happly ⊢
  obtain ⟨haccepts, rfl⟩ := happly
  have hfits : name.Fits moved := h.elim (·.fits haccepts.fits) (·.fits haccepts.fits)
  have hgiven : name.given given = name.given moved :=
    h.elim (·.given_eq haccepts.fits.distinct) Overridden.given_eq
  rw [← hgiven]
  exact ⟨⟨hfits, hgiven ▸ haccepts.readable⟩, rfl⟩

end Name

/-- A name with arguments is read exactly if the name, in letters of either case, is a
    filter's and this filter takes the arguments; the filter has the labelled values, an
    unlabelled one where there is no labelled, and its defaults for the rest. The letter
    case, the order and a value that a label overrides decide neither. -/
theorem parse_arguments_spec {c rest : Cursor} {written : String} {given : List Argument}
    (h : IsWritten c written given rest) :
    (∀ filter d, parse c = .ok (filter, d) ↔ d = rest ∧ ∃ name : Name,
      written.toList.map Char.toLower = name.toText.toList ∧ name.Accepts given ∧
        filter = name.fill (name.given given)) ∧
    (∀ e after again moved, IsWritten e again moved after →
      again.toList.map Char.toLower = written.toList.map Char.toLower →
      (∀ name : Name, written.toList.map Char.toLower = name.toText.toList →
        name.TakesAlike given moved) →
      ∀ filter, parse c = .ok (filter, rest) ↔ parse e = .ok (filter, after)) := by
  refine ⟨fun filter d => ?_, fun e after again moved he hcase halike filter => ?_⟩
  · rw [parse_eq_ok_iff h]
    simp only [Name.ofText?_eq_some_iff, Name.apply_eq_ok_iff]
  · simp only [parse_eq_ok_iff h, parse_eq_ok_iff he, Name.ofText?_eq_some_iff, hcase, true_and]
    constructor
    · rintro ⟨name, hname, happly⟩
      exact ⟨name, hname, Name.apply_of_takesAlike (halike name hname) happly⟩
    · rintro ⟨name, hname, happly⟩
      exact ⟨name, hname, Name.apply_of_takesAlike (halike name hname).symm happly⟩

/-- A label overrides a value that is no number, and the labelled arguments may change
    places. -/
theorem parse_arguments_spec_overridden :
    IsWritten (Cursor.ofString "Truncate = many, trail: !, characters: 5") "Truncate"
        [⟨none, "many"⟩, ⟨some "trail", "!"⟩, ⟨some "characters", "5"⟩] ⟨[], ⟨1, 40⟩⟩ ∧
      parse (Cursor.ofString "Truncate = many, trail: !, characters: 5") =
        .ok (.truncate 5 "!", ⟨[], ⟨1, 40⟩⟩) ∧
      parse (Cursor.ofString "truncate = many, characters: 5, trail: !") =
        .ok (.truncate 5 "!", ⟨[], ⟨1, 40⟩⟩) := by
  have hwritten : IsWritten (Cursor.ofString "Truncate = many, trail: !, characters: 5") "Truncate"
      [⟨none, "many"⟩, ⟨some "trail", "!"⟩, ⟨some "characters", "5"⟩] ⟨[], ⟨1, 40⟩⟩ :=
    ⟨⟨" = many, trail: !, characters: 5".toList, ⟨1, 8⟩⟩, by decide +kernel, by decide +kernel⟩
  have hmoved : IsWritten (Cursor.ofString "truncate = many, characters: 5, trail: !") "truncate"
      [⟨none, "many"⟩, ⟨some "characters", "5"⟩, ⟨some "trail", "!"⟩] ⟨[], ⟨1, 40⟩⟩ :=
    ⟨⟨" = many, characters: 5, trail: !".toList, ⟨1, 8⟩⟩, by decide +kernel, by decide +kernel⟩
  have hreordered : Reordered
      [⟨none, "many"⟩, ⟨some "trail", "!"⟩, ⟨some "characters", "5"⟩]
      [⟨none, "many"⟩, ⟨some "characters", "5"⟩, ⟨some "trail", "!"⟩] :=
    ⟨.cons _ (.swap ..), fun _ => Iff.rfl⟩
  obtain ⟨haccepts, hfilter⟩ := Name.apply_eq_ok_iff.mp (show Name.truncate.apply
    [⟨none, "many"⟩, ⟨some "trail", "!"⟩, ⟨some "characters", "5"⟩] = .ok (.truncate 5 "!") by
      decide +kernel)
  obtain ⟨hread, hsame⟩ := parse_arguments_spec hwritten
  have hfirst := (hread _ _).mpr ⟨rfl, .truncate, by decide, haccepts, hfilter⟩
  refine ⟨hwritten, hfirst, ?_⟩
  exact (hsame _ _ _ _ hmoved (by decide) (fun _ _ => .inl hreordered) _).mp hfirst

end StaticPages.Filter
