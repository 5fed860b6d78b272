import StaticPages.Filter.Apply
import StaticPages.Proofs.Text.Split

namespace StaticPages

namespace Text

/-- Some parts, each with a text behind it, and a last part. -/
def weave (parts texts : List (List Char)) (last : List Char) : List Char :=
  (List.zipWith (· ++ ·) parts texts).flatten ++ last

@[simp] theorem weave_nil (last : List Char) : weave [] [] last = last := rfl

@[simp] theorem weave_cons (part text last : List Char) (parts texts : List (List Char)) :
    weave (part :: parts) (text :: texts) last = part ++ (text ++ weave parts texts last) := by
  simp [weave]

/-- Joining parts puts the separator behind all but the last one. -/
theorem intercalate_eq_weave (separator last : List Char) (parts : List (List Char)) :
    separator.intercalate (parts ++ [last]) =
      weave parts (List.replicate parts.length separator) last := by
  induction parts with
  | nil => simp
  | cons part parts ih =>
    have hne : parts ++ [last] ≠ [] := by simp
    rw [List.cons_append, List.intercalate_cons_of_ne_nil hne, ih, List.length_cons,
      List.replicate_succ, weave_cons, List.append_assoc]

/-- A text is its parts with `find` at all its places. -/
theorem Places.weave_eq {find text last : List Char} {parts : List (List Char)}
    (h : Places find text parts last) :
    weave parts (List.replicate parts.length find) last = text := by
  induction h with
  | none => rfl
  | cons _ _ ih => rw [List.length_cons, List.replicate_succ, weave_cons, ih]

end Text

namespace Filter

open Text

/-- The first places get the replacement, as many as the limit allows, and the others keep
    what they have. -/
theorem replaceFirst_eq {find value last : List Char} {parts : List (List Char)} (hne : find ≠ [])
    (h : Places find value parts last) (replacement : List Char) (limit : Nat) :
    replaceFirst find replacement limit value =
      weave parts (List.replicate (min limit parts.length) replacement ++
        List.replicate (parts.length - limit) find) last := by
  induction h generalizing limit with
  | none hnone =>
    cases limit with
    | zero => rfl
    | succ limit => rw [replaceFirst, cut?_of_not_infix hnone]; rfl
  | @cons part rest last parts hfirst hrest ih =>
    cases limit with
    | zero =>
      rw [replaceFirst, ← (Places.cons hfirst hrest).weave_eq]
      simp
    | succ limit =>
      rw [replaceFirst, cut?_of_isLeftmost hne hfirst]
      dsimp only
      rw [ih limit, List.length_cons, Nat.succ_min_succ, Nat.add_sub_add_right, List.replicate_succ,
        List.cons_append, weave_cons, List.append_assoc]

/-- Replacing with a limit and without one comes to the same thing. A value has one sequence
    of places of what is looked for, which does not depend on what is put in. With a limit,
    just the first so many of them get the replacement, and everything else stays where it is;
    without one, or with a limit that is not below their number, all of them do. -/
theorem replace_spec {find : String} (hne : find ≠ "") (render : Renderer)
    (replacement value : String) :
    ∃ parts last, Places find.toList value.toList parts last ∧
      (∀ parts' last', Places find.toList value.toList parts' last' →
        parts' = parts ∧ last' = last) ∧
      value.toList = weave parts (List.replicate parts.length find.toList) last ∧
      (∀ limit, (Filter.replace find replacement (some limit)).apply render value =
        .ok (String.ofList (weave parts
          (List.replicate (min limit parts.length) replacement.toList ++
            List.replicate (parts.length - limit) find.toList) last))) ∧
      (Filter.replace find replacement none).apply render value =
        .ok (String.ofList (weave parts (List.replicate parts.length replacement.toList) last)) ∧
      ∀ limit, parts.length ≤ limit →
        (Filter.replace find replacement (some limit)).apply render value =
          (Filter.replace find replacement none).apply render value := by
  have hfind : find.toList ≠ [] := by simpa using hne
  have hsome : find.isEmpty = false := by simpa using hne
  obtain ⟨parts, last, hsplit, hplaces⟩ := exists_split hfind value.toList
  have hlimited (limit : Nat) : (Filter.replace find replacement (some limit)).apply render value =
      .ok (String.ofList (weave parts (List.replicate (min limit parts.length) replacement.toList ++
        List.replicate (parts.length - limit) find.toList) last)) := by
    rw [apply, replaceValue, hsome, ← replaceFirst_eq hfind hplaces]
    rfl
  have hunlimited : (Filter.replace find replacement none).apply render value =
      .ok (String.ofList (weave parts (List.replicate parts.length replacement.toList) last)) := by
    rw [apply, replaceValue, hsome, ← intercalate_eq_weave, ← hsplit]
    rfl
  refine ⟨parts, last, hplaces, fun _ _ h => hplaces.unique h, hplaces.weave_eq.symm, hlimited,
    hunlimited, fun limit hlimit => ?_⟩
  rw [hlimited, hunlimited, Nat.min_eq_right hlimit, Nat.sub_eq_zero_of_le hlimit,
    List.replicate_zero, List.append_nil]

/-- Neither what overlaps a place nor what is put in counts as a place. -/
theorem replace_spec_overlapping :
    "aba" ≠ "" ∧
      (Filter.replace "aba" "xabay" (some 1)).apply (fun text => .ok text) "ababababa" =
        .ok "xabaybababa" ∧
      (Filter.replace "aba" "xabay" none).apply (fun text => .ok text) "ababababa" =
        .ok "xabaybxabayba" ∧
      ∀ limit, 2 ≤ limit →
        (Filter.replace "aba" "xabay" (some limit)).apply (fun text => .ok text) "ababababa" =
          .ok "xabaybxabayba" := by
  have hfind : "aba" ≠ "" := by decide
  obtain ⟨parts, last, -, hunique, -, hlimited, hunlimited, hagree⟩ :=
    replace_spec hfind (fun text => .ok text) "xabay" "ababababa"
  have hplaces : Places "aba".toList "ababababa".toList [[], ['b']] ['b', 'a'] := by
    obtain ⟨parts', last', hsplit, hplaces⟩ :=
      exists_split (by decide : "aba".toList ≠ []) "ababababa".toList
    have heval : split "aba".toList "ababababa".toList = [[], ['b']] ++ [['b', 'a']] := by
      decide +kernel
    obtain ⟨rfl, hlast⟩ := List.append_inj' (hsplit.symm.trans heval) rfl
    cases hlast
    exact hplaces
  obtain ⟨rfl, rfl⟩ := hunique _ _ hplaces
  have hall : (Filter.replace "aba" "xabay" none).apply (fun text => .ok text) "ababababa" =
      .ok "xabaybxabayba" := hunlimited.trans (by decide +kernel)
  exact ⟨hfind, (hlimited 1).trans (by decide +kernel), hall,
    fun limit hlimit => (hagree limit hlimit).trans hall⟩

end Filter

end StaticPages
