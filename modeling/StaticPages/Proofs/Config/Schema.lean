import StaticPages.Config.Reader
import StaticPages.Proofs.Json.Object

namespace StaticPages

namespace Config

/-- What a value in a configuration file has to be. -/
inductive Kind where
  | object
  | switch
  | text
  | word (allowed : List String)

namespace Kind

/-- Whether a value is of a kind. -/
inductive Admits : Kind → Json → Prop where
  | object (fields : List (String × Json)) : Admits .object (.object fields)
  | switch (value : Bool) : Admits .switch (.bool value)
  | text (value : String) : Admits .text (.string value)
  | word {allowed : List String} {value : String} (h : value ∈ allowed) :
      Admits (.word allowed) (.string value)

instance : ∀ (kind : Kind) (value : Json), Decidable (kind.Admits value)
  | object, .object fields => isTrue (.object fields)
  | switch, .bool value => isTrue (.switch value)
  | text, .string value => isTrue (.text value)
  | word allowed, .string value =>
    decidable_of_iff (value ∈ allowed) ⟨.word, fun h => by cases h; assumption⟩
  | object, .null | object, .bool _ | object, .number _ | object, .string _ | object, .array _
  | switch, .null | switch, .number _ | switch, .string _ | switch, .array _ | switch, .object _
  | text, .null | text, .bool _ | text, .number _ | text, .array _ | text, .object _
  | word _, .null | word _, .bool _ | word _, .number _ | word _, .array _ | word _, .object _ =>
    isFalse nofun

def expected : Kind → String
  | object => "object"
  | switch => "boolean"
  | text => "string"
  | word allowed => Issue.choice allowed

/-- What is wrong with a value that is not of a kind. -/
def complaint : Kind → Json → Issue
  | word allowed, .string value => .wrongWord allowed value
  | kind, value => .wrongType kind.expected value.typeName

end Kind

/-- A place in a configuration file with the kind of value that belongs there. -/
structure Place where
  keys : List String
  kind : Kind

/-- Whether a file has nothing at a place, or a value that belongs there. -/
def Place.Fits (value : Json) (place : Place) : Prop :=
  ∀ found, value.valueAt? place.keys = some found → place.kind.Admits found

instance (value : Json) (place : Place) : Decidable (place.Fits value) :=
  match h : value.valueAt? place.keys with
  | none => isTrue fun _ hfound => by cases h.symm.trans hfound
  | some found =>
    decidable_of_iff (place.kind.Admits found)
      ⟨fun hkind _ hfound => Option.some.inj (h.symm.trans hfound) ▸ hkind, fun hfits => hfits _ h⟩

def loggingKeys : List (String × Kind) :=
  [("level", .word ["off", "error", "warn", "info", "debug"]), ("global", .switch),
    ("project", .switch)]

def renderKeys : List (String × Kind) :=
  [("template", .text), ("outDir", .text), ("precedence", .word ["metadata", "derived"])]

def markdownKeys : List (String × Kind) :=
  [("html", .switch), ("linkify", .switch), ("typographer", .switch), ("taskLists", .switch)]

/-- The sections of a configuration with their keys. -/
def sections : List (String × List (String × Kind)) :=
  [("logging", loggingKeys), ("render", renderKeys), ("markdown", markdownKeys)]

def keyPlaces (name : String) (keys : List (String × Kind)) : List Place :=
  keys.map fun (key, kind) => ⟨[name, key], kind⟩

def sectionPlaces (name : String) (keys : List (String × Kind)) : List Place :=
  ⟨[name], .object⟩ :: keyPlaces name keys

theorem exists_keys_of_mem_sectionPlaces {name : String} {keys : List (String × Kind)}
    {place : Place} (h : place ∈ sectionPlaces name keys) : ∃ rest, place.keys = name :: rest := by
  rcases List.mem_cons.mp h with rfl | hmem
  · exact ⟨[], rfl⟩
  · obtain ⟨⟨key, kind⟩, -, rfl⟩ := List.mem_map.mp hmem
    exact ⟨[key], rfl⟩

/-- All places of a configuration file: the root, and each section before its keys. -/
def schema : List Place :=
  ⟨[], .object⟩ :: sections.flatMap fun (name, keys) => sectionPlaces name keys

/-- Whether a value is an object whose sections are objects, with a value of the right kind
    at each known key. Whatever is absent is right. -/
def Conforms (value : Json) : Prop :=
  ∀ place ∈ schema, place.Fits value

instance (value : Json) : Decidable (Conforms value) :=
  List.decidableBAll _ schema

/-- Whether a place is the first of some that has a value that does not belong there. -/
structure IsFirstMisfit (value : Json) (places : List Place) (place : Place) (found : Json) :
    Prop where
  present : value.valueAt? place.keys = some found
  refused : ¬ place.kind.Admits found
  first : ∃ before after, places = before ++ place :: after ∧
    ∀ earlier ∈ before, earlier.Fits value

/-- Whether two objects have the same at the keys that a section knows. -/
def SameKeys (keys : List (String × Kind)) (fields others : List (String × Json)) : Prop :=
  ∀ key ∈ keys.map Prod.fst, fields.lookup key = others.lookup key

/-- Whether what stands at a section differs at most in unknown keys. -/
inductive AlikeSection (keys : List (String × Kind)) : Option Json → Option Json → Prop where
  | same (given : Option Json) : AlikeSection keys given given
  | objects {fields others : List (String × Json)} (h : SameKeys keys fields others) :
      AlikeSection keys (some (.object fields)) (some (.object others))

/-- Whether two objects differ at most in unknown keys, their own and those in sections. -/
def Alike (fields others : List (String × Json)) : Prop :=
  ∀ name keys, (name, keys) ∈ sections →
    AlikeSection keys (fields.lookup name) (others.lookup name)

/-- The fields of an object whose keys a section knows. -/
def keptFields (keys : List (String × Kind)) (fields : List (String × Json)) :
    List (String × Json) :=
  Json.presentFields (keys.map fun (key, _) => (key, fields.lookup key))

/-- A section without the keys that it does not know. -/
def onlyKeys (keys : List (String × Kind)) : Json → Json
  | .object fields => .object (keptFields keys fields)
  | other => other

/-- The fields of an object that are sections, without unknown keys in them. -/
def keptSections (fields : List (String × Json)) : List (String × Json) :=
  Json.presentFields
    (sections.map fun (name, keys) => (name, (fields.lookup name).map (onlyKeys keys)))

/-- A value without unknown sections, and without unknown keys in its sections. -/
def known : Json → Json
  | .object fields => .object (keptSections fields)
  | other => other

theorem lookup_keptFields {keys : List (String × Kind)} (hdistinct : (keys.map Prod.fst).Nodup)
    (fields : List (String × Json)) {key : String} (h : key ∈ keys.map Prod.fst) :
    (keptFields keys fields).lookup key = fields.lookup key := by
  obtain ⟨⟨_, kind⟩, hmem, rfl⟩ := List.mem_map.mp h
  refine Json.lookup_presentFields ?_ (List.mem_map.mpr ⟨_, hmem, rfl⟩)
  rw [List.map_map]
  exact hdistinct

theorem lookup_keptSections {name : String} {keys : List (String × Kind)}
    (h : (name, keys) ∈ sections) (fields : List (String × Json)) :
    (keptSections fields).lookup name = (fields.lookup name).map (onlyKeys keys) := by
  have hdistinct : (sections.map Prod.fst).Nodup := by decide
  refine Json.lookup_presentFields ?_ (List.mem_map.mpr ⟨_, h, rfl⟩)
  rw [List.map_map]
  exact hdistinct

theorem keptFields_congr {keys : List (String × Kind)} {fields others : List (String × Json)}
    (h : SameKeys keys fields others) : keptFields keys fields = keptFields keys others := by
  refine congrArg Json.presentFields (List.map_congr_left fun entry hmem => ?_)
  exact congrArg _ (h entry.1 (List.mem_map.mpr ⟨entry, hmem, rfl⟩))

theorem AlikeSection.onlyKeys_eq {keys : List (String × Kind)} {given other : Option Json}
    (h : AlikeSection keys given other) : given.map (onlyKeys keys) = other.map (onlyKeys keys) := by
  cases h with
  | same => rfl
  | objects hkeys =>
    rw [Option.map_some, Option.map_some, onlyKeys, onlyKeys, keptFields_congr hkeys]

theorem keptSections_congr {fields others : List (String × Json)} (h : Alike fields others) :
    keptSections fields = keptSections others := by
  refine congrArg Json.presentFields (List.map_congr_left ?_)
  rintro ⟨name, keys⟩ hmem
  exact congrArg (Prod.mk name) (h name keys hmem).onlyKeys_eq

end Config

end StaticPages
