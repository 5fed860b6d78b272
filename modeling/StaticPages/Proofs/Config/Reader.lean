import StaticPages.Proofs.Config.Schema
import StaticPages.Proofs.Config.Setting
import StaticPages.Proofs.Json.Reading

namespace StaticPages

namespace Config

section Places

variable {value found : Json} {places others : List Place} {place earlier : Place}

theorem Place.fits_of_absent (h : value.valueAt? place.keys = none) : place.Fits value := by
  intro found hfound
  cases h.symm.trans hfound

theorem Place.fits_of_admits (h : value.valueAt? place.keys = some found)
    (hkind : place.kind.Admits found) : place.Fits value := by
  intro other hother
  cases h.symm.trans hother
  exact hkind

theorem IsFirstMisfit.append (h : IsFirstMisfit value places place found) (others : List Place) :
    IsFirstMisfit value (places ++ others) place found := by
  obtain ⟨before, after, rfl, hbefore⟩ := h.first
  exact ⟨h.present, h.refused, before, after ++ others, by simp, hbefore⟩

theorem IsFirstMisfit.prepend (h : IsFirstMisfit value places place found)
    (hothers : ∀ other ∈ others, other.Fits value) :
    IsFirstMisfit value (others ++ places) place found := by
  obtain ⟨before, after, rfl, hbefore⟩ := h.first
  refine ⟨h.present, h.refused, others ++ before, after, by simp, ?_⟩
  exact fun earlier hmem => (List.mem_append.mp hmem).elim (hothers earlier) (hbefore earlier)

theorem IsFirstMisfit.cons (h : IsFirstMisfit value places place found)
    (hearlier : earlier.Fits value) : IsFirstMisfit value (earlier :: places) place found :=
  h.prepend (List.forall_mem_singleton.mpr hearlier)

theorem isFirstMisfit_head (hpresent : value.valueAt? place.keys = some found)
    (hrefused : ¬ place.kind.Admits found) (places : List Place) :
    IsFirstMisfit value (place :: places) place found :=
  ⟨hpresent, hrefused, [], places, rfl, by simp⟩

theorem IsFirstMisfit.not_fits (h : IsFirstMisfit value places place found) :
    place ∈ places ∧ ¬ place.Fits value := by
  obtain ⟨before, after, rfl, -⟩ := h.first
  exact ⟨by simp, fun hfits => h.refused (hfits found h.present)⟩

/-- Whether a value is read exactly if it is right at some places, and otherwise refused for
    the first one where it is not. -/
inductive Checks {α : Type} (value : Json) (places : List Place) (P : α → Prop) :
    Checked α → Prop where
  | ok {a : α} (fits : ∀ place ∈ places, place.Fits value) (h : P a) : Checks value places P (.ok a)
  | error {place : Place} {found : Json} (h : IsFirstMisfit value places place found) :
      Checks value places P (.error (place.keys, place.kind.complaint found))

end Places

section Rules

variable {α β : Type} {value : Json} {places others : List Place} {P : α → Prop} {Q : β → Prop}
  {read : Checked α} {next : α → Checked β}

theorem checks_single {place : Place} {a : α} (hfits : place.Fits value) (h : P a) :
    Checks value [place] P (.ok a) :=
  .ok (List.forall_mem_singleton.mpr hfits) h

theorem checks_pure {a : α} (h : P a) : Checks value [] P (pure a) :=
  .ok (by simp) h

theorem Checks.behind {earlier : Place} (hearlier : earlier.Fits value)
    (h : Checks value places P read) : Checks value (earlier :: places) P read := by
  cases h with
  | ok hfits ha => exact .ok (List.forall_mem_cons.mpr ⟨hearlier, hfits⟩) ha
  | error hmisfit => exact .error (hmisfit.cons hearlier)

theorem Checks.map {f : α → β} (h : Checks value places P read) (hf : ∀ a, P a → Q (f a)) :
    Checks value places Q (read.map f) := by
  cases h with
  | ok hfits ha => exact .ok hfits (hf _ ha)
  | error hmisfit => exact .error hmisfit

theorem Checks.bind (h : Checks value places P read)
    (hnext : ∀ a, P a → Checks value others Q (next a)) :
    Checks value (places ++ others) Q (read >>= next) := by
  cases h with
  | error hmisfit => exact .error (hmisfit.append others)
  | ok hfits ha =>
    rename_i a
    change Checks value (places ++ others) Q (next a)
    have hrest := hnext a ha
    generalize next a = result at hrest ⊢
    cases hrest with
    | error hmisfit => exact .error (hmisfit.prepend hfits)
    | ok hothers hb =>
      refine .ok (fun place hmem => ?_) hb
      exact (List.mem_append.mp hmem).elim (hfits place) (hothers place)

theorem Checks.cons {place : Place} (h : Checks value [place] P read)
    (hnext : ∀ a, P a → Checks value places Q (next a)) :
    Checks value (place :: places) Q (read >>= next) :=
  h.bind hnext

end Rules

section Kinds

variable {α : Type}

/-- Whether a reader accepts the values of a kind, each of which can be told from what was
    read, and complains about all others. -/
structure Kind.IsReadBy (kind : Kind) (read : Json → Except Issue α) (toJson : α → Json) :
    Prop where
  accepted : ∀ value, kind.Admits value → ∃ a, read value = .ok a ∧ toJson a = value
  refused : ∀ value, ¬ kind.Admits value → read value = .error (kind.complaint value)

theorem isReadBy_readBool : Kind.switch.IsReadBy readBool Json.bool where
  accepted := by
    rintro _ ⟨⟩
    exact ⟨_, rfl, rfl⟩
  refused value h := by
    cases value with
    | bool value => exact absurd (.switch value) h
    | _ => rfl

theorem isReadBy_readString : Kind.text.IsReadBy readString Json.string where
  accepted := by
    rintro _ ⟨⟩
    exact ⟨_, rfl, rfl⟩
  refused value h := by
    cases value with
    | string value => exact absurd (.text value) h
    | _ => rfl

theorem isReadBy_readWord {all : List α} {name : α → String} {value? : String → Option α}
    (hall : ∀ a, a ∈ all) (hvalue : ∀ word a, value? word = some a ↔ word = name a) :
    (Kind.word (all.map name)).IsReadBy (readWord (all.map name) value?)
      fun a => .string (name a) where
  accepted := by
    rintro _ ⟨⟩
    rename_i word hword
    obtain ⟨a, -, rfl⟩ := List.mem_map.mp hword
    refine ⟨a, ?_, rfl⟩
    rw [readWord, (hvalue _ a).mpr rfl]
  refused value h := by
    cases value with
    | string word =>
      cases hfound : value? word with
      | none => rw [readWord, hfound]; rfl
      | some a =>
        rw [(hvalue word a).mp hfound] at h
        exact absurd (.word (List.mem_map_of_mem (hall a))) h
    | _ => rfl

theorem isReadBy_level : (Kind.word ["off", "error", "warn", "info", "debug"]).IsReadBy
    (readWord (Log.Level.all.map Log.Level.name) Log.Level.ofName?) fun level => .string level.name :=
  isReadBy_readWord Log.Level.mem_all fun _ _ => Log.Level.ofName?_eq_some_iff

theorem isReadBy_precedence : (Kind.word ["metadata", "derived"]).IsReadBy
    (readWord (Precedence.all.map Precedence.name) Precedence.ofName?) fun p => .string p.name :=
  isReadBy_readWord Precedence.mem_all fun _ _ => Precedence.ofName?_eq_some_iff

end Kinds

section Sections

variable {α : Type} {value : Json} {fields : List (String × Json)} {group key name : String}
  {kind : Kind} {keys : List (String × Kind)} {toJson : α → Json}

theorem checks_readKey {read : Json → Except Issue α} (hread : kind.IsReadBy read toJson)
    (hplace : value.valueAt? [group, key] = fields.lookup key) :
    Checks value [⟨[group, key], kind⟩] (fun found => found.map toJson = fields.lookup key)
      (readKey group fields key read) := by
  unfold readKey
  cases hlookup : fields.lookup key with
  | none => exact checks_single (Place.fits_of_absent (hplace.trans hlookup)) rfl
  | some given =>
    dsimp only
    rw [hlookup] at hplace
    by_cases hkind : kind.Admits given
    · obtain ⟨a, ha, rfl⟩ := hread.accepted given hkind
      rw [ha]
      exact checks_single (Place.fits_of_admits hplace hkind) rfl
    · rw [hread.refused given hkind]
      exact .error (isFirstMisfit_head hplace hkind [])

theorem checks_readLogging
    (hplace : ∀ key, value.valueAt? ["logging", key] = fields.lookup key) :
    Checks value (keyPlaces "logging" loggingKeys)
      (fun c => c.toJson = onlyKeys loggingKeys (.object fields)) (readLogging fields) := by
  unfold readLogging
  refine (checks_readKey isReadBy_level (hplace "level")).cons fun level hlevel => ?_
  refine (checks_readKey isReadBy_readBool (hplace "global")).cons fun toGlobal hglobal => ?_
  refine (checks_readKey isReadBy_readBool (hplace "project")).cons fun toProject hproject => ?_
  refine checks_pure ?_
  simp only [LoggingConfig.toJson, hlevel, hglobal, hproject]
  rfl

theorem checks_readRender (hplace : ∀ key, value.valueAt? ["render", key] = fields.lookup key) :
    Checks value (keyPlaces "render" renderKeys)
      (fun c => c.toJson = onlyKeys renderKeys (.object fields)) (readRender fields) := by
  unfold readRender
  refine (checks_readKey isReadBy_readString (hplace "template")).cons fun template htemplate => ?_
  refine (checks_readKey isReadBy_readString (hplace "outDir")).cons fun outDir houtDir => ?_
  refine (checks_readKey isReadBy_precedence (hplace "precedence")).cons
    fun precedence hprecedence => ?_
  refine checks_pure ?_
  simp only [RenderConfig.toJson, htemplate, houtDir, hprecedence]
  rfl

theorem checks_readMarkdown
    (hplace : ∀ key, value.valueAt? ["markdown", key] = fields.lookup key) :
    Checks value (keyPlaces "markdown" markdownKeys)
      (fun c => c.toJson = onlyKeys markdownKeys (.object fields)) (readMarkdown fields) := by
  unfold readMarkdown
  refine (checks_readKey isReadBy_readBool (hplace "html")).cons fun html hhtml => ?_
  refine (checks_readKey isReadBy_readBool (hplace "linkify")).cons fun linkify hlinkify => ?_
  refine (checks_readKey isReadBy_readBool (hplace "typographer")).cons
    fun typographer htypographer => ?_
  refine (checks_readKey isReadBy_readBool (hplace "taskLists")).cons
    fun taskLists htaskLists => ?_
  refine checks_pure ?_
  simp only [MarkdownConfig.toJson, hhtml, hlinkify, htypographer, htaskLists]
  rfl

/-- A section is read if it is an object in which all keys are right. -/
theorem checks_readSection {read : List (String × Json) → Checked α}
    (hread : ∀ inner, (∀ key, (Json.object fields).valueAt? [name, key] = inner.lookup key) →
      Checks (.object fields) (keyPlaces name keys)
        (fun a => toJson a = onlyKeys keys (.object inner)) (read inner)) :
    Checks (.object fields) (sectionPlaces name keys)
      (fun found => found.map toJson = (fields.lookup name).map (onlyKeys keys))
      (readSection fields name read) := by
  have hplace : ∀ rest, (Json.object fields).valueAt? (name :: rest) =
      (fields.lookup name).bind fun inner => inner.valueAt? rest := fun _ => rfl
  unfold readSection
  cases hlookup : fields.lookup name with
  | none =>
    refine .ok (fun place hmem => Place.fits_of_absent ?_) rfl
    obtain ⟨rest, hrest⟩ := exists_keys_of_mem_sectionPlaces hmem
    rw [hrest, hplace, hlookup, Option.bind_none]
  | some given =>
    rw [hlookup] at hplace
    cases given with
    | object inner =>
      refine Checks.behind (Place.fits_of_admits (hplace []) (.object inner)) ?_
      exact (hread inner fun key => (hplace [key]).trans (Json.valueAt?_singleton inner key)).map
        fun a ha => congrArg some ha
    | _ => exact .error (isFirstMisfit_head (hplace []) (by rintro ⟨⟩) _)

/-- A configuration is read from an object all of whose known places are right. -/
theorem checks_ofJson (value : Json) :
    Checks value schema (fun config => config.toJson = known value) (ofJson value) := by
  cases value with
  | object fields =>
    have hschema : schema = ⟨[], .object⟩ :: (sectionPlaces "logging" loggingKeys ++
        (sectionPlaces "render" renderKeys ++ (sectionPlaces "markdown" markdownKeys ++ []))) := rfl
    rw [hschema, ofJson]
    refine Checks.behind (Place.fits_of_admits rfl (.object fields)) ?_
    refine (checks_readSection fun _ => checks_readLogging).bind fun logging hlogging => ?_
    refine (checks_readSection fun _ => checks_readRender).bind fun render hrender => ?_
    refine (checks_readSection fun _ => checks_readMarkdown).bind fun markdown hmarkdown => ?_
    refine checks_pure ?_
    simp only [toJson, hlogging, hrender, hmarkdown]
    rfl
  | _ => exact .error (isFirstMisfit_head rfl (by rintro ⟨⟩) _)

end Sections

section Known

variable {α : Type} {fields others : List (String × Json)} {name : String}
  {keys : List (String × Kind)}

theorem readKey_keptFields {group key : String} (hdistinct : (keys.map Prod.fst).Nodup)
    (h : key ∈ keys.map Prod.fst) (fields : List (String × Json)) (read : Json → Except Issue α) :
    readKey group (keptFields keys fields) key read = readKey group fields key read := by
  rw [readKey, readKey, lookup_keptFields hdistinct fields h]

theorem readLogging_keptFields (fields : List (String × Json)) :
    readLogging (keptFields loggingKeys fields) = readLogging fields := by
  unfold readLogging
  iterate 3 rw [readKey_keptFields (by decide) (by decide)]

theorem readRender_keptFields (fields : List (String × Json)) :
    readRender (keptFields renderKeys fields) = readRender fields := by
  unfold readRender
  iterate 3 rw [readKey_keptFields (by decide) (by decide)]

theorem readMarkdown_keptFields (fields : List (String × Json)) :
    readMarkdown (keptFields markdownKeys fields) = readMarkdown fields := by
  unfold readMarkdown
  iterate 4 rw [readKey_keptFields (by decide) (by decide)]

theorem readSection_of_lookup {read : List (String × Json) → Checked α}
    (h : others.lookup name = (fields.lookup name).map (onlyKeys keys))
    (hread : ∀ inner, read (keptFields keys inner) = read inner) :
    readSection others name read = readSection fields name read := by
  rw [readSection, readSection, h]
  cases fields.lookup name with
  | none => rfl
  | some given =>
    cases given with
    | object inner => exact congrArg (Except.map some) (hread inner)
    | _ => rfl

/-- Unknown keys do not matter to the reader. -/
theorem ofJson_known (value : Json) : ofJson (known value) = ofJson value := by
  cases value with
  | object fields =>
    rw [known, ofJson, ofJson]
    rw [readSection_of_lookup (lookup_keptSections (.head _) fields) readLogging_keptFields,
      readSection_of_lookup (lookup_keptSections (.tail _ (.head _)) fields) readRender_keptFields,
      readSection_of_lookup (lookup_keptSections (.tail _ (.tail _ (.head _))) fields)
        readMarkdown_keptFields]
  | _ => rfl

end Known

section Outcome

variable {value : Json} {config : Config}

theorem toJson_of_ofJson (h : ofJson value = .ok config) : config.toJson = known value := by
  have hchecks := checks_ofJson value
  rw [h] at hchecks
  cases hchecks with
  | ok _ hjson => exact hjson

theorem ofJson_succeeds_iff : (∃ config, ofJson value = .ok config) ↔ Conforms value := by
  have hchecks := checks_ofJson value
  generalize ofJson value = result at hchecks
  cases hchecks with
  | ok hfits _ => exact ⟨fun _ => hfits, fun _ => ⟨_, rfl⟩⟩
  | error hmisfit =>
    obtain ⟨hmem, hnot⟩ := hmisfit.not_fits
    refine ⟨?_, fun hconforms => absurd (hconforms _ hmem) hnot⟩
    rintro ⟨config, herror⟩
    cases herror

/-- A value that is refused is refused for its first misfit. -/
theorem isFirstMisfit_of_ofJson {e : List String × Issue} (h : ofJson value = .error e) :
    ∃ place found, IsFirstMisfit value schema place found ∧
      e = (place.keys, place.kind.complaint found) := by
  have hchecks := checks_ofJson value
  generalize ofJson value = result at h hchecks
  cases hchecks with
  | ok _ _ => cases h
  | error hmisfit => exact ⟨_, _, hmisfit, (Except.error.inj h).symm⟩

-- The order of the schema decides, not that of the file.
example :
    ofJson (.object [("markdown", .object [("html", .string "yes")]),
      ("logging", .object [("global", .null), ("level", .string "loud")])]) =
      .error (["logging", "level"], .wrongWord ["off", "error", "warn", "info", "debug"] "loud") :=
  rfl

/-- What was read is read again from its own form. -/
theorem ofJson_toJson (h : ofJson value = .ok config) : ofJson config.toJson = .ok config := by
  rw [toJson_of_ofJson h, ofJson_known, h]

end Outcome

section Printed

theorem plain_present {entries : List (String × Option Json)}
    (hdistinct : (entries.map Prod.fst).Nodup)
    (h : ∀ entry ∈ entries, ∀ value ∈ entry.2, value.Plain) : (Json.present entries).Plain :=
  .object (Json.nodup_presentFields hdistinct) fun _ hfield =>
    h _ (Json.mem_of_mem_presentFields hfield) _ rfl

theorem plain_map {α : Type} {f : α → Json} (hf : ∀ a, (f a).Plain) (given : Option α) :
    ∀ value ∈ given.map f, value.Plain := by
  rintro _ hvalue
  obtain ⟨a, -, rfl⟩ := Option.map_eq_some_iff.mp hvalue
  exact hf a

theorem plain_logging (c : LoggingConfig) : c.toJson.Plain := by
  refine plain_present (by simp) ?_
  simp only [List.forall_mem_cons]
  exact ⟨plain_map (fun _ => .string _) c.level, plain_map .bool c.toGlobal,
    plain_map .bool c.toProject, List.forall_mem_nil _⟩

theorem plain_render (c : RenderConfig) : c.toJson.Plain := by
  refine plain_present (by simp) ?_
  simp only [List.forall_mem_cons]
  exact ⟨plain_map .string c.template, plain_map .string c.outDir,
    plain_map (fun _ => .string _) c.precedence, List.forall_mem_nil _⟩

theorem plain_markdown (c : MarkdownConfig) : c.toJson.Plain := by
  refine plain_present (by simp) ?_
  simp only [List.forall_mem_cons]
  exact ⟨plain_map .bool c.html, plain_map .bool c.linkify, plain_map .bool c.typographer,
    plain_map .bool c.taskLists, List.forall_mem_nil _⟩

/-- A configuration is written without numbers, so that it can be read back from its text. -/
theorem plain_toJson (c : Config) : c.toJson.Plain := by
  refine plain_present (by simp) ?_
  simp only [List.forall_mem_cons]
  exact ⟨plain_map plain_logging c.logging, plain_map plain_render c.render,
    plain_map plain_markdown c.markdown, List.forall_mem_nil _⟩

end Printed

end Config

end StaticPages
