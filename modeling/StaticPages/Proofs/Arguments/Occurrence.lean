import Mathlib.Data.List.ReduceOption
import StaticPages.Proofs.Arguments.Spelling

namespace StaticPages.Arguments

/-- How a flag may occur: with a value that an equals sign joins to it, with the token
    behind it as its value, or without a value. -/
inductive Occurrence where
  | joined (value : String)
  | separate (value : String)
  | bare
  deriving DecidableEq, Repr

namespace Occurrence

/-- The value that an occurrence gives. -/
def value? : Occurrence → Option String
  | joined value => some value
  | separate value => some value
  | bare => none

/-- What is read of the value. A joined one ends at its first equals sign. -/
def read? : Occurrence → Option String
  | joined value => some (upToEquals value)
  | separate value => some value
  | bare => none

end Occurrence

/-- How a token is an occurrence of a flag, if `next` is the token behind it. -/
def occurrence? (switches : List String) (name token : String) (next : Option String) :
    Option Occurrence :=
  match token.toList with
  | '-' :: '-' :: body =>
    if name ≠ "" ∧ Text.trimChars (body.takeWhile (· != '=')) = name.toList then
      match body.dropWhile (· != '=') with
      | _ :: value => some (.joined (String.ofList value))
      | [] =>
        let taken := next.filter fun value => !switches.contains name && isValue value
        some (taken.elim .bare .separate)
    else none
  | '-' :: rest => if name ≠ "" ∧ name.toList = rest then some .bare else none
  | _ => none

/-- The occurrences of a flag on a command line, in their order. -/
def occurrences (switches : List String) (name : String) : List String → List Occurrence
  | [] => []
  | token :: rest =>
    (occurrence? switches name token rest.head?).toList ++ occurrences switches name rest

/-- The values that a flag keeps of those that its occurrences give, one after the other:
    all of them, unless the first occurrence gives none. -/
def kept : List (Option String) → List String
  | none :: _ => []
  | given => given.reduceOption

/-- What a token of some form gives to a flag, if it names it: a value or none. -/
def Form.given? (switches : List String) (name : String) (next : Option String) :
    Form → Option (Option String)
  | .short other => if other = name then some none else none
  | .long other (some value) => if other = name then some (some value) else none
  | .long other none =>
    if other = name then some (next.filter fun value => !switches.contains name && isValue value)
    else none
  | _ => none

/-- What an item gives to a flag. -/
def Item.given? (name : String) : Item → Option (Option String)
  | .flag other value => if other = name then some value else none
  | .positional _ => none

variable (switches : List String) {name : String}

theorem given?_longForm_of_named {body : List Char} {next : Option String} (hne : name ≠ "")
    (hname : Text.trimChars (body.takeWhile (· != '=')) = name.toList) :
    (longForm body).given? switches name next =
      match body.dropWhile (· != '=') with
      | _ :: value => some (some (upToEquals (String.ofList value)))
      | [] => some (next.filter fun value => !switches.contains name && isValue value) := by
  have hchars : name.toList.isEmpty = false := by simpa using hne
  unfold longForm
  simp only [hname, hchars, Bool.false_eq_true, if_false, String.ofList_toList]
  cases body.dropWhile (· != '=') with
  | nil => simp only [Form.given?, if_true]
  | cons equals value => simp only [Form.given?, if_true, upToEquals, String.toList_ofList]

theorem given?_longForm_of_not_named {body : List Char} {next : Option String}
    (h : ¬ (name ≠ "" ∧ Text.trimChars (body.takeWhile (· != '=')) = name.toList)) :
    (longForm body).given? switches name next = none := by
  unfold longForm
  dsimp only
  split
  · rfl
  · next hnotEmpty =>
    have hother : String.ofList (Text.trimChars (body.takeWhile (· != '='))) ≠ name := by
      rintro rfl
      refine h ⟨?_, String.toList_ofList.symm⟩
      simpa [← String.toList_inj] using hnotEmpty
    split <;> simp only [Form.given?, if_neg hother]

theorem Occurrence.read?_elim (taken : Option String) :
    (taken.elim bare separate).read? = taken := by
  cases taken <;> rfl

theorem form_of_dash {token : String} {c : Char} {rest : List Char}
    (h : token.toList = '-' :: c :: rest) (hc : c ≠ '-') :
    form token = .short (String.ofList (c :: rest)) := by
  unfold form
  split
  · next hempty => cases h.symm.trans hempty
  · next body hbody =>
    cases h.symm.trans hbody
    exact absurd rfl hc
  · next d others hshort hrest =>
    cases h.symm.trans hrest
    rfl
  · next hempty hlong hshort => exact (hshort c rest h).elim

theorem map_read?_occurrence? (name token : String) (next : Option String) :
    (occurrence? switches name token next).map Occurrence.read? =
      (form token).given? switches name next := by
  unfold occurrence?
  split
  · next body hcs =>
    simp only [form, hcs]
    split
    · next hnamed =>
      rw [given?_longForm_of_named switches hnamed.1 hnamed.2]
      split
      · rfl
      · exact congrArg some (Occurrence.read?_elim _)
    · next hnamed => exact (given?_longForm_of_not_named switches hnamed).symm
  · next rest hlong hcs =>
    cases rest with
    | nil => simp [form, hcs, Form.given?]
    | cons c rest =>
      have hc : c ≠ '-' := by
        rintro rfl
        exact hlong rest rfl
      have hiff : (name ≠ "" ∧ name.toList = c :: rest) ↔ String.ofList (c :: rest) = name := by
        constructor
        · rintro ⟨-, hname⟩
          rw [← hname, String.ofList_toList]
        · rintro rfl
          simp
      simp only [form_of_dash hcs hc, Form.given?, hiff]
      split <;> rfl
  · next hlong hdash =>
    unfold form
    split
    · rfl
    · next body hbody => exact (hlong body hbody).elim
    · next c rest hshort hrest => exact (hdash _ hrest).elim
    · rfl

theorem given?_long_none (name other : String) (next : Option String) :
    (Form.long other none).given? switches name next =
      (Item.flag other (next.filter fun value => !switches.contains other && isValue value)).given?
        name := by
  simp only [Form.given?, Item.given?]
  split
  · next h => rw [h]
  · rfl

/-- What is read of the occurrences of a flag is what the items give to it. A token that
    is taken as a value names no flag. -/
theorem filterMap_given?_items (name : String) (tokens : List String) :
    (items switches tokens).filterMap (Item.given? name) =
      (occurrences switches name tokens).map Occurrence.read? := by
  have hitem (item : Item) (later : List Item) :
      (item :: later).filterMap (Item.given? name) =
        (item.given? name).toList ++ later.filterMap (Item.given? name) := by
    rw [List.filterMap_cons]
    cases item.given? name <;> rfl
  have htoken (token : String) (rest : List String) :
      (occurrences switches name (token :: rest)).map Occurrence.read? =
        ((form token).given? switches name rest.head?).toList ++
          (occurrences switches name rest).map Occurrence.read? := by
    rw [occurrences, List.map_append, ← map_read?_occurrence?, Option.toList_map]
  fun_induction items switches tokens with
  | case1 => rfl
  | case2 token rest hform ih => rw [htoken, hform, ← ih]; rfl
  | case3 token rest text hform ih
  | case4 token rest other hform ih
  | case5 token rest other value hform ih => rw [htoken, hform, ← ih, hitem]; rfl
  | case6 token other hform => rw [htoken, hform, hitem]; rfl
  | case7 token other hform next later htakes ih =>
    have hnext : form next = .positional next :=
      form_of_isValue (Bool.and_eq_true_iff.mp htakes).2
    rw [htoken, htoken, hform, hnext, hitem, ← ih, List.head?_cons, given?_long_none,
      Option.filter_some, if_pos htakes]
    rfl
  | case8 token other hform next later htakes ih =>
    rw [htoken, hform, hitem, ← ih, List.head?_cons, given?_long_none, Option.filter_some,
      if_neg htakes]

theorem lookup_foldl_of_present (its : List Item) {start : Arguments}
    (h : start.flags.lookup name = some .present) :
    (its.foldl note start).flags.lookup name = some .present := by
  induction its generalizing start with
  | nil => exact h
  | cons item rest ih =>
    rw [List.foldl_cons]
    cases item with
    | positional text => exact ih h
    | flag other value =>
      apply ih
      by_cases hother : name = other
      · subst hother
        rw [note, Flags.add_of_present h, h]
      · rw [note, Flags.lookup_add, if_neg (fun hsame => hother hsame.1), h]

theorem filterMap_valueOf? (name : String) (its : List Item) :
    its.filterMap (Item.valueOf? name) = (its.filterMap (Item.given? name)).reduceOption := by
  rw [List.reduceOption, List.filterMap_filterMap]
  congr 1
  funext item
  cases item with
  | positional text => rfl
  | flag other value =>
    cases value <;> simp only [Item.valueOf?, Item.given?] <;> split <;> rfl

/-- The first occurrence of a flag decides whether any of its values are kept. -/
theorem values_foldl_of_none (hname : name ∉ Flags.reserved) (its : List Item)
    {start : Arguments} (h : start.flags.lookup name = none) :
    (its.foldl note start).flags.values name = kept (its.filterMap (Item.given? name)) := by
  induction its generalizing start with
  | nil =>
    rw [List.foldl_nil, Flags.values, h]
    rfl
  | cons item rest ih =>
    rw [List.foldl_cons]
    cases item with
    | positional text => exact ih h
    | flag other value =>
      by_cases hother : other = name
      · subst hother
        have hfirst : (note start (.flag other value)).flags.lookup other =
            some (Flags.heldAfter none value) := by
          rw [note, Flags.lookup_add, if_pos ⟨rfl, hname⟩, h]
        cases value with
        | none =>
          simp [Flags.values, lookup_foldl_of_present rest hfirst, Item.given?, kept]
        | some text =>
          have hvalues : (note start (.flag other (some text))).flags.values other = [text] := by
            rw [Flags.values, hfirst]
            rfl
          rw [values_foldl rest hname (by simp [hvalues]), hvalues, filterMap_valueOf?]
          simp [Item.given?, kept, List.reduceOption_cons_of_some]
      · rw [List.filterMap_cons_none (by simp [Item.given?, hother])]
        apply ih
        rw [note, Flags.lookup_add, if_neg (fun hsame => hother hsame.1.symm), h]

theorem values_parse (hname : name ∉ Flags.reserved) (tokens : List String) :
    (parse switches tokens).flags.values name =
      kept ((occurrences switches name tokens).map Occurrence.read?) := by
  rw [parse, values_foldl_of_none hname _ rfl, filterMap_given?_items]

theorem filterMap_read?_eq_iff {found : List Occurrence} :
    found.filterMap Occurrence.read? = found.filterMap Occurrence.value? ↔
      ∀ value, .joined value ∈ found → '=' ∉ value.toList := by
  induction found with
  | nil => simp
  | cons first rest ih =>
    cases first with
    | joined value =>
      simp [Occurrence.read?, Occurrence.value?, ih, upToEquals_eq_self_iff]
    | separate value =>
      simp [Occurrence.read?, Occurrence.value?, ih]
    | bare =>
      rw [List.filterMap_cons_none rfl, List.filterMap_cons_none rfl, ih]
      simp

theorem kept_map_read?_eq_iff {found : List Occurrence} :
    kept (found.map Occurrence.read?) = found.filterMap Occurrence.value? ↔
      (found.head? ≠ some .bare ∨ found.filterMap Occurrence.value? = []) ∧
        ∀ value, .joined value ∈ found → '=' ∉ value.toList := by
  by_cases hbare : found.head? = some .bare
  · obtain ⟨rest, rfl⟩ := List.head?_eq_some_iff.mp hbare
    have hkept : kept ((Occurrence.bare :: rest).map Occurrence.read?) = [] := rfl
    rw [hkept, eq_comm (a := [])]
    simp only [hbare, ne_eq, not_true_eq_false, false_or, iff_self_and]
    intro hnil value hvalue
    exact absurd (List.filterMap_eq_nil_iff.mp hnil _ hvalue) nofun
  · have hkept : kept (found.map Occurrence.read?) = found.filterMap Occurrence.read? := by
      cases found with
      | nil => rfl
      | cons first rest =>
        cases first with
        | bare => exact absurd rfl hbare
        | joined value | separate value =>
          rw [List.map_cons, kept, List.reduceOption, ← List.map_cons, List.filterMap_map]
          · rfl
          · nofun
    rw [hkept, filterMap_read?_eq_iff]
    simp [hbare]

/-- The values of a flag are those that its occurrences give, in their order, and the first
    of them is its first value; it is given if some token names it. A joined value ends at
    its first equals sign, and no value at all is kept if the first occurrence has none, so
    the values are all that are given exactly if neither happens. -/
theorem values_spec (switches tokens : List String) {name : String}
    (hname : name ∉ Flags.reserved) :
    let flags := (parse switches tokens).flags
    let found := occurrences switches name tokens
    flags.values name = kept (found.map Occurrence.read?) ∧
      flags.first? name = (flags.values name).head? ∧
      (flags.has name = true ↔ ∃ token ∈ tokens, Names name token) ∧
      (flags.values name = found.filterMap Occurrence.value? ↔
        (found.head? ≠ some .bare ∨ found.filterMap Occurrence.value? = []) ∧
          ∀ value, .joined value ∈ found → '=' ∉ value.toList) := by
  intro flags found
  have hvalues : flags.values name = kept (found.map Occurrence.read?) :=
    values_parse switches hname tokens
  refine ⟨hvalues, Flags.first?_eq_head? flags name, ?_, ?_⟩
  · rw [has_parse_iff]
    simp only [hname, not_false_eq_true, true_and, form_flag?_eq_some_iff]
  · rw [hvalues, kept_map_read?_eq_iff]

/-- Two values of a flag are lost behind an occurrence without a value. -/
theorem values_spec_bare_first :
    "tag" ∉ Flags.reserved ∧
      occurrences ["json"] "tag" ["--tag", "--json", "--tag", "a", "--tag=b"] =
        [.bare, .separate "a", .joined "b"] ∧
      (parse ["json"] ["--tag", "--json", "--tag", "a", "--tag=b"]).flags.values "tag" = [] ∧
      (parse ["json"] ["--tag", "--json", "--tag", "a", "--tag=b"]).flags.values "tag" ≠
        (occurrences ["json"] "tag" ["--tag", "--json", "--tag", "a", "--tag=b"]).filterMap
          Occurrence.value? := by
  have hname : "tag" ∉ Flags.reserved := by decide
  have hfound : occurrences ["json"] "tag" ["--tag", "--json", "--tag", "a", "--tag=b"] =
      [.bare, .separate "a", .joined "b"] := by decide
  obtain ⟨hvalues, -, -, hall⟩ :=
    values_spec ["json"] ["--tag", "--json", "--tag", "a", "--tag=b"] hname
  refine ⟨hname, hfound, by rw [hvalues, hfound]; rfl, ?_⟩
  rw [Ne, hall, hfound]
  simp [Occurrence.value?]

end StaticPages.Arguments
