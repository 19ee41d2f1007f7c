import Mathlib.Data.Finmap
import McProtocol.Lib.Substrings

/-! # Embedded output of the schema compiler

The generated text stands between two markers of `api.h` and of `api.c`, and the report has the
hashes of both regions. A file is the text that it is read as.
-/

namespace McProtocol.Embedding

open Substrings

abbrev Text := List Char

/-- Why a run raises. -/
inductive EmbedError where
  /-- Not exactly one pair of markers. -/
  | markerPair (begin ending : Text)
  | misordered (begin ending : Text)
  /-- `str.index` finds nothing. -/
  | notFound
  /-- `KeyError` -/
  | missingKey (key : Text)
  /-- `json.dumps` fails. -/
  | unserializable
  /-- `json.loads` fails, or gives no dictionary. -/
  | undecodable
  | protocolMismatch
  | hashesMissing
  | hashMismatch (name : Text)
  | overlayMismatch
  | legacyOutput (name : Text)
  deriving Repr, DecidableEq

/-- What is between one pair of markers. -/
def markedRegion (text begin ending : Text) : Except EmbedError Text :=
  if count begin text ≠ 1 ∨ count ending text ≠ 1 then .error (.markerPair begin ending)
  else
    match index begin text, index ending text with
    | some first, some finish =>
        let start := first + begin.length
        if finish ≤ start then .error (.misordered begin ending)
        else .ok ((text.drop start).take (finish - start))
    | _, _ => .error .notFound

/-- `str.strip` of the characters in question. -/
def stripOf (stripped : Char → Bool) (text : Text) : Text :=
  ((text.dropWhile stripped).reverse.dropWhile stripped).reverse

def stripNewlines (text : Text) : Text := stripOf (· == '\n') text

def replaceMarkedRegion (text begin ending contents : Text) : Except EmbedError Text := do
  let current ← markedRegion text begin ending
  match index begin text with
  | none => .error .notFound
  | some first =>
      let start := first + begin.length
      let finish := start + current.length
      let replacement := ['\n'] ++ stripNewlines contents ++ ['\n']
      .ok (text.take start ++ replacement ++ text.drop finish)

def publicBegin : Text := "/* MC_GENERATED_PUBLIC_BEGIN */".toList

def publicEnd : Text := "/* MC_GENERATED_PUBLIC_END */".toList

def privateBegin : Text := "/* MC_GENERATED_PRIVATE_BEGIN */".toList

def privateEnd : Text := "/* MC_GENERATED_PRIVATE_END */".toList

/-- Where `str.splitlines` ends a line. -/
def isLineBreak (c : Char) : Bool :=
  c.toNat ∈ [0x0a, 0x0b, 0x0c, 0x0d, 0x1c, 0x1d, 0x1e, 0x85, 0x2028, 0x2029]

/-- What `str.strip` strips. -/
def isSpace (c : Char) : Bool :=
  (c.toNat ∈ [0x09, 0x0a, 0x0b, 0x0c, 0x0d, 0x1c, 0x1d, 0x1e, 0x1f, 0x20, 0x85, 0xa0, 0x1680,
    0x2028, 0x2029, 0x202f, 0x205f, 0x3000]) || (0x2000 ≤ c.toNat && c.toNat ≤ 0x200a)

def strip (text : Text) : Text := stripOf isSpace text

def rstrip (text : Text) : Text := (text.reverse.dropWhile isSpace).reverse

/-- `str.splitlines`, behind the characters of `line`. -/
def splitlinesFrom (line : Text) : Text → List Text
  | [] => if line = [] then [] else [line]
  | '\r' :: '\n' :: text => line :: splitlinesFrom [] text
  | c :: text =>
      if isLineBreak c then line :: splitlinesFrom [] text else splitlinesFrom (line ++ [c]) text

def splitlines (text : Text) : List Text := splitlinesFrom [] text

def joinLines (lines : List Text) : Text := (lines.intersperse ['\n']).flatten

/-- One line of the loop of `normalize_generated_lines`. -/
def normalizeLine (normalized : List Text) (line : Text) : List Text :=
  if line = [] ∧ (normalized = [] ∨ normalized.getLast? = some []) then normalized
  else normalized ++ [line]

/-- Runs of blank lines become one, and none is left at the ends. -/
def normalizeGeneratedLines (lines : List Text) : Text :=
  let normalized := lines.foldl normalizeLine []
  joinLines (normalized.reverse.dropWhile (· == [])).reverse

/-- A character of a C name. -/
def isNameChar (c : Char) : Bool :=
  ('A' ≤ c && c ≤ 'Z') || ('a' ≤ c && c ≤ 'z') || ('0' ≤ c && c ≤ '9') || c == '_'

/-- The text begins with the definition of a codec. -/
def startsCodec (stem text : Text) : Bool :=
  stem.isPrefixOf text &&
    let name := text.drop stem.length
    !(name.takeWhile isNameChar).isEmpty && (name.dropWhile isNameChar).head? == some '('

/-- From the first line on that begins with a codec; `fresh` is said at the start of a line. -/
def codecFrom (stem : Text) (fresh : Bool) : Text → Option Text
  | [] => none
  | c :: text =>
      if fresh && startsCodec stem (c :: text) then some (c :: text)
      else codecFrom stem (c == '\n') text

/-- The contents of both regions. -/
def embeddedRegions (protocol : Int) (header source sourceSha privateExtension : Text) :
    Text × Text :=
  let number := (toString protocol).toList
  let guard := "MC_PROTOCOL_GENERATED_".toList ++ number ++ "_H".toList
  let publicSkip : List Text := [
    "/* Generated from minecraft-data; do not edit. */".toList,
    "#ifndef ".toList ++ guard,
    "#define ".toList ++ guard,
    "#include \"api.h\"".toList,
    "#endif /* ".toList ++ guard ++ " */".toList,
    "extern const McPacketInfo mc".toList ++ number ++ "_generated_packet_ids[];".toList,
    "extern const size_t mc".toList ++ number ++ "_generated_packet_id_count;".toList]
  let publicLines := (splitlines header).filter fun line => !publicSkip.contains line
  let privateBody := match codecFrom ("bool mc".toList ++ number ++ "_".toList) true source with
    | some body => strip body
    | none => []
  let banner : List Text := [
    "/* Generated by tools/schema_compiler.py from minecraft-data.".toList,
    " * Protocol ".toList ++ number ++ "; protocol.json sha256 ".toList ++ sourceSha ++ ".".toList,
    " * Do not edit inside the generated markers. */".toList,
    []]
  let privateLines := banner ++ splitlines privateBody
  let privateLines := if privateExtension = [] then privateLines
    else privateLines ++ [] :: splitlines (rstrip privateExtension)
  (normalizeGeneratedLines (banner ++ publicLines) ++ ['\n'],
    normalizeGeneratedLines privateLines ++ ['\n'])

abbrev Manifest (Value : Type) := Finmap fun _ : Text => Value

/-- JSON and its values, as Python compares them. -/
structure Json (Value : Type) where
  number : Int → Value
  text : Text → Value
  array : List Value → Value
  /-- A dictionary of these entries. -/
  object : List (Text × Value) → Value
  /-- `set(value)`, where the value is a dictionary. -/
  keys : Value → Option (Finset Text)
  /-- `value[key]` -/
  item : Value → Text → Option Value
  /-- `str(value)` -/
  str : Value → Text
  /-- `json.dumps`, with an indent of two and sorted keys. -/
  dumps : Manifest Value → Option Text
  /-- `json.loads` of a dictionary. -/
  loads : Text → Option (Manifest Value)

/-- What is documented of it: a dictionary has its entries, and what is dumped is loaded again, with
a line end behind it. -/
structure Json.Lawful {Value : Type} (json : Json Value) : Prop where
  keys_object : ∀ entries, (entries.map Prod.fst).Nodup →
    json.keys (json.object entries) = some (entries.map Prod.fst).toFinset
  item_object : ∀ entries key, (entries.map Prod.fst).Nodup →
    json.item (json.object entries) key = entries.lookup key
  loads_dumps : ∀ manifest text, json.dumps manifest = some text →
    json.loads (text ++ ['\n']) = some manifest

structure EmbeddedOutputs where
  apiHeader : Text
  apiSource : Text
  report : Text
  deriving Repr, DecidableEq

def encodeUtf8 (text : Text) : List UInt8 := (String.ofList text).toUTF8.toList

section report

variable {Value : Type} (json : Json Value) (hexdigest : List UInt8 → Text)

def regionHashes (headerRegion sourceRegion : Text) : List (Text × Value) := [
  ("api.c".toList, json.text (hexdigest (encodeUtf8 sourceRegion))),
  ("api.h".toList, json.text (hexdigest (encodeUtf8 headerRegion)))]

/-- `if component_profiles:` -/
def withProfiles (componentProfiles : Option (List Value)) (manifest : Manifest Value) :
    Manifest Value :=
  match componentProfiles with
  | some (profile :: profiles) =>
      manifest.insert "component_profiles".toList (json.array (profile :: profiles))
  | _ => manifest

/-- The manifest of a run whose regions are these. -/
def embeddedManifest (manifest : Manifest Value) (headerRegion sourceRegion : Text)
    (componentProfiles : Option (List Value)) : Manifest Value :=
  let embedded := (manifest.insert "generator_version".toList (json.number 2)).insert
    "embedded_outputs".toList (json.object (regionHashes json hexdigest headerRegion sourceRegion))
  (withProfiles json componentProfiles embedded).erase "outputs".toList

/-- `str(manifest["source_sha256"])` -/
def sourceSha (manifest : Manifest Value) : Except EmbedError Text :=
  match manifest.lookup "source_sha256".toList with
  | some value => .ok (json.str value)
  | none => .error (.missingKey "source_sha256".toList)

def embeddedSchemaOutputs (protocol : Int) (header source : Text) (manifest : Manifest Value)
    (apiHeader apiSource privateExtension : Text) (componentProfiles : Option (List Value)) :
    Except EmbedError EmbeddedOutputs := do
  let sha ← sourceSha json manifest
  let regions := embeddedRegions protocol header source sha privateExtension
  let headerText ← replaceMarkedRegion apiHeader publicBegin publicEnd regions.1
  let sourceText ← replaceMarkedRegion apiSource privateBegin privateEnd regions.2
  let sourceRegion ← markedRegion sourceText privateBegin privateEnd
  let headerRegion ← markedRegion headerText publicBegin publicEnd
  match json.dumps (embeddedManifest json hexdigest manifest headerRegion sourceRegion
    componentProfiles) with
  | none => .error .unserializable
  | some report => .ok ⟨headerText, sourceText, report ++ ['\n']⟩

/-- A check that raises. -/
def raiseUnless (condition : Prop) [Decidable condition] (error : EmbedError) :
    Except EmbedError Unit :=
  if condition then .ok () else .error error

/-- `legacyExists` tells of the files beside the report. -/
def verifyExistingEmbedded [DecidableEq Value] (apiHeader apiSource report : Text)
    (protocol : Int) (overlay : Option (List UInt8)) (legacyExists : Text → Bool) :
    Except EmbedError Unit := do
  match json.loads report with
  | none => .error .undecodable
  | some manifest =>
      raiseUnless (manifest.lookup "protocol".toList = some (json.number protocol)) .protocolMismatch
      match manifest.lookup "embedded_outputs".toList with
      | none => .error .hashesMissing
      | some expected =>
          raiseUnless (json.keys expected = some {"api.c".toList, "api.h".toList}) .hashesMissing
          let sourceRegion ← markedRegion apiSource privateBegin privateEnd
          let headerRegion ← markedRegion apiHeader publicBegin publicEnd
          raiseUnless (some (json.text (hexdigest (encodeUtf8 sourceRegion))) =
            json.item expected "api.c".toList) (.hashMismatch "api.c".toList)
          raiseUnless (some (json.text (hexdigest (encodeUtf8 headerRegion))) =
            json.item expected "api.h".toList) (.hashMismatch "api.h".toList)
          raiseUnless (∀ bytes ∈ overlay, manifest.lookup "overlay_sha256".toList =
            some (json.text (hexdigest bytes))) .overlayMismatch
          let stem := "mc_protocol_".toList ++ (toString protocol).toList
          raiseUnless (legacyExists (stem ++ ".c".toList) = false)
            (.legacyOutput (stem ++ ".c".toList))
          raiseUnless (legacyExists (stem ++ ".h".toList) = false)
            (.legacyOutput (stem ++ ".h".toList))

end report

/-- A pair of markers around a region, the only ones of a text. -/
structure Marked (begin ending before region after : Text) : Prop where
  something : region ≠ []
  opens : Once begin before (region ++ ending ++ after)
  closes : Once ending (before ++ begin ++ region) after

section regions

variable {text begin ending region contents before after : Text}

theorem nonempty_of_markedRegion (found : markedRegion text begin ending = .ok region) :
    begin ≠ [] ∧ ending ≠ [] := by
  unfold markedRegion at found
  by_cases counted : count begin text ≠ 1 ∨ count ending text ≠ 1
  · rw [if_pos counted] at found
    cases found
  · rw [if_neg counted] at found
    obtain ⟨first, second⟩ := not_or.mp counted
    rw [not_not] at first second
    -- an empty marker is counted once in an empty text only, where nothing is between markers
    have empty {marker : Text} (once : count marker text = 1) (none : marker = []) : text = [] := by
      rw [count, if_pos none] at once
      exact List.length_eq_zero_iff.mp (by omega)
    have alone {marker : Text} (blank : text = []) (once : count marker text = 1) : marker = [] := by
      by_contra some
      rw [blank, count, if_neg some] at once
      exact absurd once (by simp [countFrom])
    have absurdly (blank : text = []) : False := by
      rw [alone blank first, alone blank second, blank] at found
      simp [index] at found
    exact ⟨fun none => absurdly (empty first none), fun none => absurdly (empty second none)⟩

/-- What `text[start:finish]` is between two places. -/
theorem slice_region : ((before ++ begin ++ region ++ ending ++ after).drop
    (before.length + begin.length)).take ((before ++ begin ++ region).length -
      (before.length + begin.length)) = region := by
  have start : (before ++ begin ++ region ++ ending ++ after).drop (before.length + begin.length) =
      region ++ (ending ++ after) := by
    rw [← List.length_append, List.append_assoc (before ++ begin ++ region),
      List.append_assoc (before ++ begin), List.drop_left]
  have size : (before ++ begin ++ region).length - (before.length + begin.length) =
      region.length := by
    simp only [List.length_append]
    omega
  rw [start, size, List.take_left]

/-- Two markers of a text, the second behind the first. -/
theorem exists_region {rest front : Text}
    (same : before ++ begin ++ rest = front ++ ending ++ after)
    (ordered : before.length + begin.length < front.length) :
    ∃ region, region ≠ [] ∧ front = before ++ begin ++ region ∧
      rest = region ++ ending ++ after := by
  have inside : before ++ begin <+: front := by
    refine List.prefix_of_prefix_length_le (List.prefix_append _ rest) ?_ ?_
    · rw [same, List.append_assoc]
      exact List.prefix_append _ _
    · rw [List.length_append]
      exact le_of_lt ordered
  obtain ⟨region, rfl⟩ := inside
  refine ⟨region, ?_, rfl, ?_⟩
  · rintro rfl
    simp at ordered
  · have tail : before ++ begin ++ rest = before ++ begin ++ (region ++ ending ++ after) := by
      rw [same]
      simp only [List.append_assoc]
    exact List.append_cancel_left tail

theorem Marked.region_of (nonempty : begin ≠ []) (other : ending ≠ [])
    (marked : Marked begin ending before region after) :
    markedRegion (before ++ begin ++ region ++ ending ++ after) begin ending = .ok region := by
  have split : before ++ begin ++ region ++ ending ++ after =
      before ++ begin ++ (region ++ ending ++ after) := by
    simp only [List.append_assoc]
  have first := (count_eq_one_iff nonempty).mpr ⟨before, _, split, marked.opens⟩
  have second := (count_eq_one_iff other).mpr ⟨before ++ begin ++ region, after, rfl, marked.closes⟩
  have start : index begin (before ++ begin ++ region ++ ending ++ after) = some before.length := by
    rw [split]
    exact index_first nonempty marked.opens.first
  have finish : index ending (before ++ begin ++ region ++ ending ++ after) = _ :=
    index_first other marked.closes.first
  have counted : ¬ (count begin (before ++ begin ++ region ++ ending ++ after) ≠ 1 ∨
      count ending (before ++ begin ++ region ++ ending ++ after) ≠ 1) :=
    not_or.mpr ⟨not_not.mpr first, not_not.mpr second⟩
  have ordered : ¬ (before ++ begin ++ region).length ≤ before.length + begin.length := by
    have positive := List.length_pos_of_ne_nil marked.something
    simp only [List.length_append]
    omega
  rw [markedRegion, if_neg counted, start, finish]
  dsimp only
  rw [if_neg ordered, slice_region]

/-- A region is what is between the only markers of the text. -/
theorem markedRegion_eq_ok (nonempty : begin ≠ []) (other : ending ≠ []) :
    markedRegion text begin ending = .ok region ↔
      ∃ before after, text = before ++ begin ++ region ++ ending ++ after ∧
        Marked begin ending before region after := by
  constructor
  · intro found
    unfold markedRegion at found
    by_cases counted : count begin text ≠ 1 ∨ count ending text ≠ 1
    · rw [if_pos counted] at found
      cases found
    · obtain ⟨first, second⟩ := not_or.mp counted
      rw [not_not] at first second
      obtain ⟨before, rest, rfl, opens⟩ := (count_eq_one_iff nonempty).mp first
      obtain ⟨front, after, same, closes⟩ := (count_eq_one_iff other).mp second
      have start : index begin (before ++ begin ++ rest) = _ := index_first nonempty opens.first
      have finish : index ending (front ++ ending ++ after) = _ := index_first other closes.first
      rw [← same] at finish
      rw [if_neg counted, start, finish] at found
      dsimp only at found
      by_cases misordered : front.length ≤ before.length + begin.length
      · rw [if_pos misordered] at found
        cases found
      · obtain ⟨inner, something, rfl, rfl⟩ := exists_region same (not_le.mp misordered)
        rw [if_neg misordered, same, slice_region] at found
        cases found
        exact ⟨before, after, same, something, opens, closes⟩
  · rintro ⟨before, after, rfl, marked⟩
    exact marked.region_of nonempty other

/-- Contents without a marker keep the markers where they are. -/
theorem Marked.replace {inner : Text} (nonempty : begin ≠ []) (other : ending ≠ [])
    (beginLine : '\n' ∉ begin) (endingLine : '\n' ∉ ending)
    (marked : Marked begin ending before region after)
    (noBegin : ¬ begin <:+: inner) (noEnding : ¬ ending <:+: inner) :
    Marked begin ending before (['\n'] ++ inner ++ ['\n']) after := by
  refine ⟨by simp, ⟨marked.opens.first, ?_⟩, ⟨?_, marked.closes.last⟩⟩
  · have lines : ['\n'] ++ inner ++ ['\n'] ++ ending ++ after =
        [] ++ '\n' :: (inner ++ '\n' :: (ending ++ after)) := by
      simp
    rw [lines, infix_append_cons nonempty beginLine, infix_append_cons nonempty beginLine,
      List.infix_nil]
    rintro (empty | within | behind)
    · exact nonempty empty
    · exact noBegin within
    · refine marked.opens.last (behind.trans ⟨region, [], ?_⟩)
      simp
  · have lines : before ++ begin ++ (['\n'] ++ inner ++ ['\n']) ++ ending.dropLast =
        (before ++ begin) ++ '\n' :: (inner ++ '\n' :: ending.dropLast) := by
      simp
    rw [First, lines, infix_append_cons other endingLine, infix_append_cons other endingLine]
    rintro (front | within | behind)
    · refine marked.closes.first (front.trans ⟨[], region ++ ending.dropLast, ?_⟩)
      simp
    · exact noEnding within
    · exact not_infix_dropLast other behind

theorem stripOf_infix (stripped : Char → Bool) (text : Text) : stripOf stripped text <:+: text := by
  have back : (((text.dropWhile stripped).reverse.dropWhile stripped).reverse) <+:
      text.dropWhile stripped := by
    rw [← List.reverse_suffix, List.reverse_reverse]
    exact List.dropWhile_suffix stripped
  exact back.isInfix.trans (List.dropWhile_suffix stripped).isInfix

/-- What replaces a region. -/
def framed (contents : Text) : Text := ['\n'] ++ stripNewlines contents ++ ['\n']

theorem Marked.replace_eq (nonempty : begin ≠ []) (other : ending ≠ [])
    (marked : Marked begin ending before region after) :
    replaceMarkedRegion (before ++ begin ++ region ++ ending ++ after) begin ending contents =
      .ok (before ++ begin ++ framed contents ++ ending ++ after) := by
  have split : before ++ begin ++ region ++ ending ++ after =
      before ++ begin ++ (region ++ ending ++ after) := by
    simp only [List.append_assoc]
  have start : index begin (before ++ begin ++ region ++ ending ++ after) = some before.length := by
    rw [split]
    exact index_first nonempty marked.opens.first
  have front : (before ++ begin ++ region ++ ending ++ after).take (before.length + begin.length) =
      before ++ begin := by
    rw [split, ← List.length_append, List.take_left]
  have back : (before ++ begin ++ region ++ ending ++ after).drop
      (before.length + begin.length + region.length) = ending ++ after := by
    rw [← List.length_append, ← List.length_append, List.append_assoc (before ++ begin ++ region),
      List.drop_left]
  rw [replaceMarkedRegion, marked.region_of nonempty other]
  simp only [bind, Except.bind, start]
  rw [front, back, framed]
  simp only [List.append_assoc]

/-- A marker of generated text is on one line. -/
structure Marker where
  text : Text
  oneLine : '\n' ∉ text

/-- Contents that hold neither of two markers. -/
structure MarkerFree (begin ending contents : Text) : Prop where
  noBegin : ¬ begin <:+: contents
  noEnding : ¬ ending <:+: contents

/-- How a text with a region is turned into another one: everything up to the region and everything
behind it stays. -/
structure Replaced (begin ending : Marker) (text region contents replaced : Text) : Prop where
  between : ∃ before after, text = before ++ begin.text ++ region ++ ending.text ++ after ∧
    replaced = before ++ begin.text ++ framed contents ++ ending.text ++ after
  found : markedRegion replaced begin.text ending.text = .ok (framed contents)
  again : replaceMarkedRegion replaced begin.text ending.text contents = .ok replaced

/-- A region is replaced in its place, and by the same contents once more without a change. -/
theorem replaced_of_markedRegion {begin ending : Marker}
    (found : markedRegion text begin.text ending.text = .ok region)
    (free : MarkerFree begin.text ending.text contents) :
    ∃ replaced, replaceMarkedRegion text begin.text ending.text contents = .ok replaced ∧
      Replaced begin ending text region contents replaced := by
  obtain ⟨nonempty, other⟩ := nonempty_of_markedRegion found
  obtain ⟨before, after, rfl, marked⟩ := (markedRegion_eq_ok nonempty other).mp found
  have within := stripOf_infix (· == '\n') contents
  have kept : Marked begin.text ending.text before (framed contents) after :=
    marked.replace nonempty other begin.oneLine ending.oneLine
      (fun occurs => free.noBegin (occurs.trans within))
      (fun occurs => free.noEnding (occurs.trans within))
  exact ⟨_, marked.replace_eq nonempty other, ⟨before, after, rfl, rfl⟩,
    kept.region_of nonempty other, kept.replace_eq nonempty other⟩

/-- What replaces a region has found it. -/
theorem markedRegion_of_replaced {replaced : Text}
    (run : replaceMarkedRegion text begin ending contents = .ok replaced) :
    ∃ region, markedRegion text begin ending = .ok region := by
  rcases found : markedRegion text begin ending with _ | region
  · rw [replaceMarkedRegion, found] at run
    cases run
  · exact ⟨region, rfl⟩

/-- A run that replaced a region is what `replaced_of_markedRegion` tells of. -/
theorem replaced_of_run {begin ending : Marker} {replaced : Text}
    (run : replaceMarkedRegion text begin.text ending.text contents = .ok replaced)
    (free : MarkerFree begin.text ending.text contents) :
    ∃ region, Replaced begin ending text region contents replaced := by
  obtain ⟨region, found⟩ := markedRegion_of_replaced run
  obtain ⟨other, same, told⟩ := replaced_of_markedRegion found free
  cases run.symm.trans same
  exact ⟨region, told⟩

end regions

def publicOpening : Marker := ⟨publicBegin, by decide +kernel⟩

def publicClosing : Marker := ⟨publicEnd, by decide +kernel⟩

def privateOpening : Marker := ⟨privateBegin, by decide +kernel⟩

def privateClosing : Marker := ⟨privateEnd, by decide +kernel⟩

section runs

variable {Value : Type} {json : Json Value} {hexdigest : List UInt8 → Text}
variable {manifest : Manifest Value} {headerRegion sourceRegion : Text}
variable {componentProfiles : Option (List Value)}

theorem withProfiles_lookup {key : Text} (other : key ≠ "component_profiles".toList) :
    (withProfiles json componentProfiles manifest).lookup key = manifest.lookup key := by
  rcases componentProfiles with _ | _ | ⟨profile, rest⟩
  · rfl
  · rfl
  · exact Finmap.lookup_insert_of_ne _ other

/-- The keys that a run does not set itself. -/
theorem embeddedManifest_lookup {key : Text}
    (own : key ∉ ["generator_version".toList, "embedded_outputs".toList,
      "component_profiles".toList, "outputs".toList]) :
    (embeddedManifest json hexdigest manifest headerRegion sourceRegion
      componentProfiles).lookup key = manifest.lookup key := by
  simp only [List.mem_cons, List.not_mem_nil, or_false, not_or] at own
  obtain ⟨version, hashes, profiles, outputs⟩ := own
  rw [embeddedManifest, Finmap.lookup_erase_ne outputs, withProfiles_lookup profiles,
    Finmap.lookup_insert_of_ne _ hashes, Finmap.lookup_insert_of_ne _ version]

theorem embeddedManifest_hashes :
    (embeddedManifest json hexdigest manifest headerRegion sourceRegion
      componentProfiles).lookup "embedded_outputs".toList =
        some (json.object (regionHashes json hexdigest headerRegion sourceRegion)) := by
  have outputs : "embedded_outputs".toList ≠ "outputs".toList := by decide +kernel
  have profiles : "embedded_outputs".toList ≠ "component_profiles".toList := by decide +kernel
  rw [embeddedManifest, Finmap.lookup_erase_ne outputs, withProfiles_lookup profiles]
  exact Finmap.lookup_insert _

theorem regionHashes_nodup :
    ((regionHashes json hexdigest headerRegion sourceRegion).map Prod.fst).Nodup := by
  change ["api.c".toList, "api.h".toList].Nodup
  decide +kernel

theorem regionHashes_keys (lawful : json.Lawful) :
    json.keys (json.object (regionHashes json hexdigest headerRegion sourceRegion)) =
      some {"api.c".toList, "api.h".toList} :=
  (lawful.keys_object _ regionHashes_nodup).trans (congrArg some (by
    change ["api.c".toList, "api.h".toList].toFinset = _
    decide +kernel))

theorem regionHashes_source (lawful : json.Lawful) :
    json.item (json.object (regionHashes json hexdigest headerRegion sourceRegion))
      "api.c".toList = some (json.text (hexdigest (encodeUtf8 sourceRegion))) := by
  rw [lawful.item_object _ _ regionHashes_nodup, regionHashes, List.lookup_cons_self]

theorem regionHashes_header (lawful : json.Lawful) :
    json.item (json.object (regionHashes json hexdigest headerRegion sourceRegion))
      "api.h".toList = some (json.text (hexdigest (encodeUtf8 headerRegion))) := by
  have other : ("api.h".toList == "api.c".toList) = false := by decide +kernel
  rw [lawful.item_object _ _ regionHashes_nodup, regionHashes, List.lookup_cons, other,
    List.lookup_cons_self]

/-- What a run does when both regions are there and hold no marker. -/
theorem embeddedSchemaOutputs_eq_ok {protocol : Int} {header source sha : Text}
    {apiHeader apiSource privateExtension : Text} {outputs : EmbeddedOutputs}
    (digest : sourceSha json manifest = .ok sha) :
    embeddedSchemaOutputs json hexdigest protocol header source manifest apiHeader apiSource
        privateExtension componentProfiles = .ok outputs ↔
      ∃ headerRegion sourceRegion report,
        replaceMarkedRegion apiHeader publicBegin publicEnd
          (embeddedRegions protocol header source sha privateExtension).1 = .ok outputs.apiHeader ∧
        replaceMarkedRegion apiSource privateBegin privateEnd
          (embeddedRegions protocol header source sha privateExtension).2 = .ok outputs.apiSource ∧
        markedRegion outputs.apiSource privateBegin privateEnd = .ok sourceRegion ∧
        markedRegion outputs.apiHeader publicBegin publicEnd = .ok headerRegion ∧
        json.dumps (embeddedManifest json hexdigest manifest headerRegion sourceRegion
          componentProfiles) = some report ∧ outputs.report = report ++ ['\n'] := by
  rw [embeddedSchemaOutputs, digest]
  simp only [bind, Except.bind]
  constructor
  · intro run
    rcases first : replaceMarkedRegion apiHeader publicBegin publicEnd
      (embeddedRegions protocol header source sha privateExtension).1 with _ | headerText
    · rw [first] at run
      cases run
    rcases second : replaceMarkedRegion apiSource privateBegin privateEnd
      (embeddedRegions protocol header source sha privateExtension).2 with _ | sourceText
    · rw [first, second] at run
      cases run
    rcases third : markedRegion sourceText privateBegin privateEnd with _ | sourceRegion
    · simp only [first, second, third] at run
      cases run
    rcases fourth : markedRegion headerText publicBegin publicEnd with _ | headerRegion
    · simp only [first, second, third, fourth] at run
      cases run
    simp only [first, second, third, fourth] at run
    rcases dumped : json.dumps (embeddedManifest json hexdigest manifest headerRegion sourceRegion
      componentProfiles) with _ | report
    · rw [dumped] at run
      cases run
    · rw [dumped] at run
      cases run
      exact ⟨headerRegion, sourceRegion, report, rfl, rfl, third, fourth, dumped, rfl⟩
  · rintro ⟨headerRegion, sourceRegion, report, first, second, third, fourth, dumped, same⟩
    simp only [first, second, third, fourth, dumped]
    rw [← same]

/-- A verification passes where the report is the manifest of the regions that are found. -/
theorem verifyExistingEmbedded_ok [DecidableEq Value] (lawful : json.Lawful)
    {apiHeader apiSource report : Text} {protocol : Int} {overlay : Option (List UInt8)}
    {legacyExists : Text → Bool}
    (dumped : json.dumps (embeddedManifest json hexdigest manifest headerRegion sourceRegion
      componentProfiles) = some report)
    (foundSource : markedRegion apiSource privateBegin privateEnd = .ok sourceRegion)
    (foundHeader : markedRegion apiHeader publicBegin publicEnd = .ok headerRegion)
    (sameProtocol : manifest.lookup "protocol".toList = some (json.number protocol))
    (sameOverlay : ∀ bytes ∈ overlay,
      manifest.lookup "overlay_sha256".toList = some (json.text (hexdigest bytes)))
    (noLegacy : ∀ name, legacyExists name = false) :
    verifyExistingEmbedded json hexdigest apiHeader apiSource (report ++ ['\n']) protocol overlay
      legacyExists = .ok () := by
  have protocolKey : (embeddedManifest json hexdigest manifest headerRegion sourceRegion
      componentProfiles).lookup "protocol".toList = some (json.number protocol) :=
    (embeddedManifest_lookup (by decide +kernel)).trans sameProtocol
  have overlayKey : ∀ bytes ∈ overlay, (embeddedManifest json hexdigest manifest headerRegion
      sourceRegion componentProfiles).lookup "overlay_sha256".toList =
        some (json.text (hexdigest bytes)) :=
    fun bytes there => (embeddedManifest_lookup (by decide +kernel)).trans (sameOverlay bytes there)
  have keys : json.keys (json.object (regionHashes json hexdigest headerRegion sourceRegion)) =
      some {"api.c".toList, "api.h".toList} := regionHashes_keys lawful
  rw [verifyExistingEmbedded, lawful.loads_dumps _ _ dumped]
  simp only [embeddedManifest_hashes, regionHashes_source lawful, regionHashes_header lawful,
    foundSource, foundHeader, bind, Except.bind, raiseUnless, if_pos protocolKey, if_pos overlayKey,
    if_pos keys, noLegacy, if_true]

end runs

/-- A region is replaced between its markers only, so that it is found again and replaced again
without a change. A run whose contents hold no marker therefore changes nothing when it is made
again on its outputs, and these are verified. -/
theorem embedding_stable :
    (∀ (begin ending : Marker) (text region contents : Text),
      markedRegion text begin.text ending.text = .ok region →
      MarkerFree begin.text ending.text contents →
      ∃ replaced, replaceMarkedRegion text begin.text ending.text contents = .ok replaced ∧
        Replaced begin ending text region contents replaced) ∧
    ∀ (Value : Type) [DecidableEq Value] (json : Json Value) (hexdigest : List UInt8 → Text)
      (protocol : Int) (header source : Text) (manifest : Manifest Value)
      (apiHeader apiSource privateExtension sha : Text) (componentProfiles : Option (List Value))
      (outputs : EmbeddedOutputs), json.Lawful → sourceSha json manifest = .ok sha →
      MarkerFree publicBegin publicEnd
        (embeddedRegions protocol header source sha privateExtension).1 →
      MarkerFree privateBegin privateEnd
        (embeddedRegions protocol header source sha privateExtension).2 →
      embeddedSchemaOutputs json hexdigest protocol header source manifest apiHeader apiSource
        privateExtension componentProfiles = .ok outputs →
      embeddedSchemaOutputs json hexdigest protocol header source manifest outputs.apiHeader
        outputs.apiSource privateExtension componentProfiles = .ok outputs ∧
      ∀ (overlay : Option (List UInt8)) (legacyExists : Text → Bool),
        manifest.lookup "protocol".toList = some (json.number protocol) →
        (∀ bytes ∈ overlay,
          manifest.lookup "overlay_sha256".toList = some (json.text (hexdigest bytes))) →
        (∀ name, legacyExists name = false) →
        verifyExistingEmbedded json hexdigest outputs.apiHeader outputs.apiSource outputs.report
          protocol overlay legacyExists = .ok () := by
  refine ⟨fun begin ending text region contents found free => replaced_of_markedRegion found free, ?_⟩
  intro Value _ json hexdigest protocol header source manifest apiHeader apiSource privateExtension
    sha componentProfiles outputs lawful digest publicFree privateFree run
  obtain ⟨headerRegion, sourceRegion, report, first, second, third, fourth, dumped, same⟩ :=
    (embeddedSchemaOutputs_eq_ok digest).mp run
  have headerRun : replaceMarkedRegion apiHeader publicOpening.text publicClosing.text _ = _ := first
  have headerFree : MarkerFree publicOpening.text publicClosing.text _ := publicFree
  have sourceRun : replaceMarkedRegion apiSource privateOpening.text privateClosing.text _ = _ :=
    second
  have sourceFree : MarkerFree privateOpening.text privateClosing.text _ := privateFree
  obtain ⟨_, headerTold⟩ := replaced_of_run headerRun headerFree
  obtain ⟨_, sourceTold⟩ := replaced_of_run sourceRun sourceFree
  refine ⟨(embeddedSchemaOutputs_eq_ok digest).mpr ⟨headerRegion, sourceRegion, report,
    headerTold.again, sourceTold.again, third, fourth, dumped, same⟩, ?_⟩
  intro overlay legacyExists sameProtocol sameOverlay noLegacy
  rw [same]
  exact verifyExistingEmbedded_ok lawful dumped third fourth sameProtocol sameOverlay noLegacy

/-- A marker across a line end is formed anew by the line end in front of the contents: the text
`AxE` behind a line end is one region, its replacement by `A` holds the first marker twice. -/
theorem embedding_unstable_across_lines :
    ¬ ∀ text begin ending region contents : Text,
      markedRegion text begin ending = .ok region →
      MarkerFree begin ending contents →
      ∃ replaced, replaceMarkedRegion text begin ending contents = .ok replaced ∧
        markedRegion replaced begin ending = .ok (framed contents) := by
  intro stable
  have found : markedRegion ['\n', 'A', 'x', 'E'] ['\n', 'A'] ['E'] = .ok ['x'] := by
    decide +kernel
  have free : MarkerFree ['\n', 'A'] ['E'] ['A'] := ⟨by decide +kernel, by decide +kernel⟩
  obtain ⟨replaced, run, again⟩ := stable _ _ _ _ _ found free
  have twice : replaceMarkedRegion ['\n', 'A', 'x', 'E'] ['\n', 'A'] ['E'] ['A'] =
      .ok ['\n', 'A', '\n', 'A', '\n', 'E'] := by
    decide +kernel
  cases run.symm.trans twice
  have refused : markedRegion ['\n', 'A', '\n', 'A', '\n', 'E'] ['\n', 'A'] ['E'] =
      .error (.markerPair ['\n', 'A'] ['E']) := by
    decide +kernel
  rw [refused] at again
  cases again

/-- Values of a small report. -/
inductive PlainValue where
  | number (value : Int)
  | text (value : Text)
  | nil
  | element (value rest : PlainValue)
  | entry (key : Text) (value rest : PlainValue)
  deriving DecidableEq

namespace PlainValue

def object (entries : List (Text × PlainValue)) : PlainValue :=
  entries.foldr (fun pair rest => .entry pair.1 pair.2 rest) .nil

def keys : PlainValue → Option (Finset Text)
  | nil => some ∅
  | entry key _ rest => (keys rest).map (insert key)
  | _ => none

def item : PlainValue → Text → Option PlainValue
  | entry key value rest, wanted => if wanted == key then some value else item rest wanted
  | _, _ => none

theorem keys_object (entries : List (Text × PlainValue)) :
    (object entries).keys = some (entries.map Prod.fst).toFinset := by
  induction entries with
  | nil => rfl
  | cons pair rest ih =>
      change ((object rest).keys).map (insert pair.1) = _
      rw [ih, Option.map_some, List.map_cons, List.toFinset_cons]

theorem item_object (entries : List (Text × PlainValue)) (key : Text) :
    (object entries).item key = entries.lookup key := by
  induction entries with
  | nil => rfl
  | cons pair rest ih =>
      change (if key == pair.1 then some pair.2 else (object rest).item key) = _
      rw [ih, List.lookup_cons]
      cases key == pair.1 <;> rfl

end PlainValue

/-- JSON that knows one report. -/
def reportJson (known : Manifest PlainValue) (report : Text) : Json PlainValue where
  number := .number
  text := .text
  array values := values.foldr .element .nil
  object := PlainValue.object
  keys := PlainValue.keys
  item := PlainValue.item
  str value := match value with
    | .text text => text
    | _ => []
  dumps manifest := if manifest = known then some report else none
  loads text := if text = report ++ ['\n'] then some known else none

theorem reportJson_lawful (known : Manifest PlainValue) (report : Text) :
    (reportJson known report).Lawful where
  keys_object entries _ := PlainValue.keys_object entries
  item_object entries key _ := PlainValue.item_object entries key
  loads_dumps manifest text dumped := by
    have dumped : (if manifest = known then some report else none) = some text := dumped
    by_cases same : manifest = known
    · rw [if_pos same] at dumped
      cases dumped
      rw [same]
      exact if_pos rfl
    · rw [if_neg same] at dumped
      cases dumped

theorem reportJson_dumps (known : Manifest PlainValue) (report : Text) :
    (reportJson known report).dumps known = some report := by
  change (if known = known then some report else none) = some report
  exact if_pos rfl

/-- The contents of a run without packets. -/
def plainContents : Text :=
  "/* Generated by tools/schema_compiler.py from minecraft-data.\n".toList ++
  " * Protocol 776; protocol.json sha256 00.\n".toList ++
  " * Do not edit inside the generated markers. */\n".toList

def plainRegion : Text := '\n' :: plainContents

def plainHash : Text := "2bae4e9ab11bfbc02a25cd5b198c7433bfcf50717576a3e54b74019fe12b1cb3".toList

def plainHexdigest (bytes : List UInt8) : Text :=
  if bytes = encodeUtf8 plainRegion then plainHash else []

def plainInput : Manifest PlainValue :=
  (Finmap.singleton "protocol".toList (.number 776)).insert "source_sha256".toList
    (.text "00".toList)

def plainManifest : Manifest PlainValue :=
  (plainInput.insert "generator_version".toList (.number 2)).insert "embedded_outputs".toList
    (.object [("api.c".toList, .text plainHash), ("api.h".toList, .text plainHash)])

def plainReport : Text :=
  "\x7b\n  \"embedded_outputs\": \x7b\n    \"api.c\": \"".toList ++ plainHash ++
  "\",\n    \"api.h\": \"".toList ++ plainHash ++
  "\"\n  \x7d,\n  \"generator_version\": 2,\n  \"protocol\": 776,\n".toList ++
  "  \"source_sha256\": \"00\"\n\x7d".toList

def plainHeader : Text := publicBegin ++ "old".toList ++ publicEnd ++ "#endif\n".toList

def plainSource : Text := "#include\n".toList ++ privateBegin ++ "old".toList ++ privateEnd

def plainOutputs : EmbeddedOutputs where
  apiHeader := publicBegin ++ plainRegion ++ publicEnd ++ "#endif\n".toList
  apiSource := "#include\n".toList ++ privateBegin ++ plainRegion ++ privateEnd
  report := plainReport ++ ['\n']

theorem plainRegions :
    embeddedRegions 776 [] [] "00".toList [] = (plainContents, plainContents) := by
  decide +kernel

theorem plainManifest_eq : embeddedManifest (reportJson plainManifest plainReport) plainHexdigest
    plainInput plainRegion plainRegion none = plainManifest := by
  have hash : plainHexdigest (encodeUtf8 plainRegion) = plainHash := if_pos rfl
  have hashes : regionHashes (reportJson plainManifest plainReport) plainHexdigest plainRegion
      plainRegion = [("api.c".toList, .text plainHash), ("api.h".toList, .text plainHash)] := by
    rw [regionHashes, hash]
    rfl
  rw [embeddedManifest, hashes]
  decide +kernel

theorem plainRun : embeddedSchemaOutputs (reportJson plainManifest plainReport) plainHexdigest 776 []
    [] plainInput plainHeader plainSource [] none = .ok plainOutputs := by
  have dumped : (reportJson plainManifest plainReport).dumps (embeddedManifest
      (reportJson plainManifest plainReport) plainHexdigest plainInput plainRegion plainRegion none) =
        some plainReport := by
    rw [plainManifest_eq, reportJson_dumps]
  have digest : sourceSha (reportJson plainManifest plainReport) plainInput = .ok "00".toList := by
    decide +kernel
  refine (embeddedSchemaOutputs_eq_ok digest).mpr
    ⟨plainRegion, plainRegion, plainReport, ?_, ?_, ?_, ?_, dumped, rfl⟩
  · rw [plainRegions]
    decide +kernel
  · rw [plainRegions]
    decide +kernel
  · decide +kernel
  · decide +kernel

theorem plainFree : MarkerFree publicBegin publicEnd (embeddedRegions 776 [] [] "00".toList []).1 ∧
    MarkerFree privateBegin privateEnd (embeddedRegions 776 [] [] "00".toList []).2 := by
  rw [plainRegions]
  exact ⟨⟨by decide +kernel, by decide +kernel⟩, ⟨by decide +kernel, by decide +kernel⟩⟩

/-- A run on two files with an old region each. -/
theorem embedding_stable_plain :
    (∃ replaced, replaceMarkedRegion plainHeader publicBegin publicEnd "new\n\n".toList =
        .ok replaced ∧
      Replaced publicOpening publicClosing plainHeader "old".toList "new\n\n".toList replaced) ∧
    embeddedSchemaOutputs (reportJson plainManifest plainReport) plainHexdigest 776 [] [] plainInput
      plainOutputs.apiHeader plainOutputs.apiSource [] none = .ok plainOutputs ∧
    verifyExistingEmbedded (reportJson plainManifest plainReport) plainHexdigest
      plainOutputs.apiHeader plainOutputs.apiSource plainOutputs.report 776 none (fun _ => false) =
        .ok () := by
  have replaced := embedding_stable.1 publicOpening publicClosing plainHeader "old".toList
    "new\n\n".toList (by decide +kernel) ⟨by decide +kernel, by decide +kernel⟩
  have run := embedding_stable.2 PlainValue (reportJson plainManifest plainReport) plainHexdigest
    776 [] [] plainInput plainHeader plainSource [] "00".toList none plainOutputs
    (reportJson_lawful _ _) (by decide +kernel) plainFree.1 plainFree.2 plainRun
  exact ⟨replaced, run.1, run.2 none (fun _ => false) (by decide +kernel)
    (fun bytes there => nomatch there) (fun _ => rfl)⟩

end McProtocol.Embedding
