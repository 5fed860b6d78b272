import StaticPages.Command.Inspect
import StaticPages.Proofs.Filter.Agreement
import StaticPages.Proofs.Filter.Printer

namespace StaticPages.Placeholder

open Token

/-- A variable and its filters, with pipes between them. -/
def shown (name : String) (filters : List Filter) : String :=
  " | ".intercalate ((sigil ++ name) :: filters.map Filter.print)

/-- What is shown of a placeholder, in its braces. -/
def written (name : String) (filters : List Filter) : String :=
  opening ++ " " ++ shown name filters ++ " " ++ closing

/-- The text behind the blank that follows a name or a filter: the filters to come, each
    between a pipe and a blank, then the closing braces and `rest`. -/
def pipes (rest : List Char) : List Filter → List Char
  | [] => closing.toList ++ rest
  | filter :: others => '|' :: ' ' :: (filter.print.toList ++ ' ' :: pipes rest others)

theorem toList_written (name : String) (filters : List Filter) (rest : List Char) :
    (written name filters).toList ++ rest =
      opening.toList ++ ([' '] ++ (sigil.toList ++ (name.toList ++ ' ' :: pipes rest filters))) := by
  have hpipes (front : String) :
      (" | ".intercalate (front :: filters.map Filter.print)).toList ++
          (' ' :: (closing.toList ++ rest)) =
        front.toList ++ ' ' :: pipes rest filters := by
    induction filters generalizing front with
    | nil => simp [pipes]
    | cons filter others ih =>
      rw [List.map_cons, String.intercalate_cons_cons, String.toList_append, List.append_assoc,
        ih filter.print, pipes]
      simp
  have hshown := hpipes (sigil ++ name)
  simp only [written, shown, String.toList_append, List.append_assoc] at hshown ⊢
  rw [← hshown]
  rfl

/-- The text behind a blank begins with a pipe or with the closing braces. -/
theorem pipes_front (rest : List Char) (filters : List Filter) :
    Filter.Argument.Ends (pipes rest filters) ∧ (pipes rest filters).head? ≠ some ',' ∧
      Text.Stops Text.isSpace (pipes rest filters) := by
  cases filters with
  | nil => exact ⟨rfl, by simp [pipes, closing], Text.stops_cons.mpr rfl⟩
  | cons filter others => exact ⟨rfl, by simp [pipes], Text.stops_cons.mpr rfl⟩

/-- A printed pipeline is read filter by filter. The blank before the closing braces may
    be left over. -/
theorem pipeline_reads {filters : List Filter} (h : ∀ f ∈ filters, f.WithinLimits)
    {gap rest : List Char} {c : Cursor} (hahead : c.ahead = gap ++ pipes rest filters)
    (hgap : ∀ x ∈ gap, Text.isBlank x = true) :
    ∃ left, (∀ x ∈ left, Text.isBlank x = true) ∧
      Parser.Reads Filter.pipeline c (filters.map Filter.readBack)
        (left ++ (closing.toList ++ rest)) := by
  induction filters generalizing gap c with
  | nil =>
    have hskip : c.skipSpace.ahead = closing.toList ++ rest :=
      Cursor.ahead_skipWhile hahead (fun x hx => Text.isSpace_of_isBlank (hgap x hx))
        (pipes_front rest []).2.2
    have hpipe : c.skipSpace.after? "|" = none := by
      rw [Cursor.after?_eq_none_iff, hskip]
      intro others heq
      cases heq
    refine ⟨gap, hgap, c, ?_, hahead⟩
    rw [Filter.pipeline_eq, hpipe, List.map_nil]
  | cons filter others ih =>
    have hskip : c.skipSpace.ahead = pipes rest (filter :: others) :=
      Cursor.ahead_skipWhile hahead (fun x hx => Text.isSpace_of_isBlank (hgap x hx))
        (pipes_front rest (filter :: others)).2.2
    obtain ⟨pipe, hpipe, hfilter⟩ : ∃ d, c.skipSpace.after? "|" = some d ∧
        d.ahead = [' '] ++ (filter.print.toList ++ ([' '] ++ pipes rest others)) :=
      Cursor.exists_after? hskip
    have hblank : ∀ x ∈ [' '], Text.isBlank x = true := by simp [Text.isBlank]
    obtain ⟨hends, hcomma, -⟩ := pipes_front rest others
    obtain ⟨passed, left, hsplit, d, hread, hd⟩ :=
      Filter.parse_reads_print (h filter (by simp)) hfilter hblank hblank hends hcomma
    have hleft : ∀ x ∈ left, Text.isBlank x = true := by
      intro x hx
      exact hblank x (hsplit ▸ List.mem_append_right passed hx)
    obtain ⟨more, hmore, e, hothers, he⟩ := ih (fun f hf => h f (by simp [hf])) hd hleft
    refine ⟨more, hmore, e, ?_, he⟩
    rw [Filter.pipeline_eq, hpipe]
    simp only [hread, hothers, List.map_cons]

/-- A placeholder that is written out is read to its closing braces, whatever follows. -/
theorem parse_reads_written {name : String} (hname : IsName name.toList)
    {filters : List Filter} (h : ∀ f ∈ filters, f.WithinLimits) {rest : List Char} {c : Cursor}
    (hahead : c.ahead = (written name filters).toList ++ rest) :
    parse c =
      .ok (⟨name, filters.map Filter.readBack,
          ⟨c.position, c.position.after (written name filters).toList⟩⟩,
        ⟨rest, c.position.after (written name filters).toList⟩) := by
  have htext := hahead
  rw [toList_written] at htext
  obtain ⟨opened, hopened, hinner⟩ := Cursor.exists_after? htext
  have hspace : opened.skipSpace.ahead =
      sigil.toList ++ (name.toList ++ ' ' :: pipes rest filters) :=
    Cursor.ahead_skipWhile hinner (by simp [Text.isSpace]) (Text.stops_cons.mpr rfl)
  obtain ⟨named, hnamed, hpipes⟩ :=
    variableName_reads hspace hname (Text.stops_cons.mpr rfl)
  rw [String.ofList_toList] at hnamed
  have hgap : named.ahead = [' '] ++ pipes rest filters := hpipes
  obtain ⟨left, hleft, filtered, hfilters, hclose⟩ :=
    pipeline_reads h hgap (by simp [Text.isBlank])
  have hend : filtered.skipSpace.ahead = closing.toList ++ rest :=
    Cursor.ahead_skipWhile hclose (fun x hx => Text.isSpace_of_isBlank (hleft x hx))
      (Text.stops_cons.mpr rfl)
  obtain ⟨d, hclosed, hd⟩ := Cursor.exists_after? hend
  have hread : parse c = .ok (⟨name, filters.map Filter.readBack, c.spanTo d⟩, d) := by
    simp only [parse, hopened, hnamed, hfilters, hclosed]
  have hreaches : c.Reaches ⟨rest, c.position.after (written name filters).toList⟩ :=
    ⟨(written name filters).toList, hahead, rfl⟩
  rw [hread, (parse_reaches hread).eq_of_ahead hreaches hd]
  rfl

/-- What is shown of a placeholder is a placeholder again once it stands in braces, and is
    read to its end. Its texts are reread, so a filter is the same again exactly if every
    text in it is bare or needs no escapes. -/
theorem parse_written {name : String} (hname : IsName name.toList) {filters : List Filter}
    (h : ∀ f ∈ filters, ∃ c d, Filter.parse c = .ok (f, d)) :
    (∀ selection, ∃ place, Command.placeholderLine ⟨name, filters, selection⟩ =
        place ++ " " ++ shown name filters) ∧
      parse (Cursor.ofString (written name filters)) =
        .ok (⟨name, filters.map Filter.readBack,
            ⟨Position.start, Position.start.after (written name filters).toList⟩⟩,
          ⟨[], Position.start.after (written name filters).toList⟩) ∧
      ∀ f ∈ filters, f.readBack = f ↔
        ∀ value ∈ f.texts,
          Filter.isBare value = true ∨ ∀ c ∈ value.toList, ¬ Json.Escaped c := by
  have hlimits : ∀ f ∈ filters, f.WithinLimits := by
    intro f hf
    obtain ⟨c, d, hread⟩ := h f hf
    exact Filter.withinLimits_of_parse hread
  refine ⟨fun selection => ⟨_, rfl⟩, ?_, fun f _ => Filter.readBack_eq_self_iff⟩
  exact parse_reads_written hname hlimits (by simp [Cursor.ofString])

/-- A quote in a text gains backslashes, a comma keeps its quotes. -/
theorem parse_written_quoted :
    (IsName "title".toList ∧ ∀ f ∈ [.markdown, .replace "a\\\"b" "a, b" none],
        ∃ c d, Filter.parse c = .ok (f, d)) ∧
      parse (Cursor.ofString
          "\x7b\x7b £title | markdown | replace = find: \"a\\\\\\\"b\", replacement: \"a, b\" \x7d\x7d") =
        .ok (⟨"title", [.markdown, .replace "a\\\\\\\"b" "a, b" none], ⟨⟨1, 0⟩, ⟨1, 71⟩⟩⟩,
          ⟨[], ⟨1, 71⟩⟩) := by
  have hname : IsName "title".toList := isName_cons rfl rfl
  have hfilters : ∀ f ∈ [.markdown, .replace "a\\\"b" "a, b" none],
      ∃ c d, Filter.parse c = .ok (f, d) := by
    intro f hf
    simp only [List.mem_cons, List.not_mem_nil, or_false] at hf
    rcases hf with rfl | rfl
    · exact ⟨_, _, @Filter.parse_print_of_withinLimits .markdown trivial⟩
    · exact ⟨_, _, @Filter.parse_print_of_withinLimits (.replace "a\"b" "a, b" none) nofun⟩
  obtain ⟨-, hread, -⟩ := parse_written hname hfilters
  exact ⟨⟨hname, hfilters⟩, hread⟩

end StaticPages.Placeholder
