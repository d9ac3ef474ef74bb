import RealmDesk.Proofs.Text.Percent
import RealmDesk.Url

/-!
# Reading back the text of a URL

The characters that separate the parts of a URL stand in no encoded text, so the text of a URL is
cut where it was put together, and every parameter comes back but those of which nothing is
written. A text is therefore read the same after it was written anew, unless a part of its query is
a bare `=`.
-/

namespace RealmDesk.Url

variable {url : Url} {separator : Char}

@[simp] theorem spaced_eq_self {character : Char} (noPlus : character ≠ '+') :
    spaced character = character :=
  if_neg noPlus

theorem decodePart_encode (text : String) :
    decodePart (Text.Percent.encode text).toList = text := by
  have unspaced : (Text.Percent.encode text).toList.map spaced =
      (Text.Percent.encode text).toList := by
    refine (List.map_congr_left fun character member => spaced_eq_self ?_).trans (List.map_id _)
    rintro rfl
    exact Text.Percent.not_mem_encode text (by decide) (by decide) member
  rw [decodePart, unspaced, String.ofList_toList, Text.Percent.decode?_encode]
  rfl

/-- No part but the empty one decodes to nothing. -/
theorem decodePart_eq_empty {part : List Char} : decodePart part = "" ↔ part = [] := by
  have written : String.ofList (part.map spaced) = "" ↔ part = [] := by
    rw [← String.toList_eq_nil_iff, String.toList_ofList, List.map_eq_nil_iff]
  rw [decodePart, ← written]
  cases decoded : Text.Percent.decode? (String.ofList (part.map spaced)) with
  | none => rfl
  | some text =>
      have blank := @Text.Percent.decode?_eq_some_empty (String.ofList (part.map spaced))
      rwa [decoded, Option.some_inj] at blank

theorem not_mem_parameterText (parameter : String × String) (noEscape : separator ≠ '%')
    (noEquals : separator ≠ '=')
    (marked : Text.Percent.isPlain (Text.Percent.toByte separator) = false) :
    separator ∉ (parameterText parameter).toList := by
  have absent (text : String) := Text.Percent.not_mem_encode text noEscape marked
  rw [parameterText]
  split
  · exact absent parameter.1
  · simp [absent, noEquals]

/-- A parameter that was written is read. -/
theorem parameter_parameterText (given : String × String) :
    parameter (parameterText given).toList = given := by
  obtain ⟨key, value⟩ := given
  have absent : '=' ∉ (Text.Percent.encode key).toList :=
    Text.Percent.not_mem_encode key (by decide) (by decide)
  rw [parameterText]
  split
  case isTrue blank =>
    obtain rfl : value = "" := String.isEmpty_iff.mp blank
    simp only [parameter, Text.cut_of_not_mem absent, decodePart_encode, Option.getD_none,
      decodePart_eq_empty.mpr]
  case isFalse =>
    have split : (Text.Percent.encode key ++ "=" ++ Text.Percent.encode value).toList =
        (Text.Percent.encode key).toList ++ '=' :: (Text.Percent.encode value).toList := by
      simp
    simp only [parameter, split, Text.cut_append absent, decodePart_encode, Option.getD_some]

/-- Nothing is written of a parameter without key and value, and of no other one. -/
theorem parameterText_eq_empty {given : String × String} :
    parameterText given = "" ↔ given = ("", "") := by
  obtain ⟨key, value⟩ := given
  rw [parameterText]
  split
  case isTrue blank =>
    obtain rfl : value = "" := String.isEmpty_iff.mp blank
    simp [Text.Percent.encode_eq_empty]
  case isFalse filled =>
    have other : value ≠ "" := fun blank => filled (String.isEmpty_iff.mpr blank)
    simp [← String.toList_eq_nil_iff, other]

theorem parameter_eq_blank {part : List Char} (given : part ≠ []) :
    parameter part = ("", "") ↔ part = ['='] := by
  have whole := Text.cut_fst_append '=' part
  rw [parameter, Prod.mk.injEq, decodePart_eq_empty, decodePart_eq_empty]
  constructor
  · rintro ⟨noKey, noValue⟩
    rw [noKey] at whole
    cases after : (Text.cut '=' part).2 with
    | none =>
        rw [after] at whole
        exact absurd whole.symm given
    | some value =>
        obtain rfl : value = [] := by simpa [after] using noValue
        rw [after] at whole
        exact whole.symm
  · rintro rfl
    exact ⟨rfl, rfl⟩

theorem toList_text_of_nil (bare : url.query = []) : url.text.toList = url.path.toList := by
  rw [text, bare]

theorem toList_text_of_ne_nil (filled : url.query ≠ []) :
    url.text.toList = url.path.toList ++
      '?' :: ['&'].intercalate (url.query.map fun given => (parameterText given).toList) := by
  rw [text]
  split
  case h_1 bare => exact absurd bare filled
  case h_2 => simp [String.toList_intercalate, Function.comp_def]

/-- The parts of the query of a raw URL. -/
def rawParts (raw : String) : List (List Char) :=
  (((raw.toList.takeWhile (· ≠ '#')).dropWhile (· ≠ '?')).drop 1).splitOn '&'

theorem query_parse (raw : String) :
    (parse raw).query = ((rawParts raw).filter (!·.isEmpty)).map parameter := by
  rw [rawParts, ← Text.cut_fst_eq_takeWhile, ← Text.cut_snd_getD_eq_dropWhile,
    ← Text.pieces_eq_splitOn]
  rfl

theorem not_mem_intercalate {parts : List (List Char)} (apart : separator ≠ '&')
    (absent : ∀ part ∈ parts, separator ∉ part) : separator ∉ ['&'].intercalate parts := by
  induction parts with
  | nil => simp
  | cons first parts induction =>
      have later := induction fun part member => absent part (List.mem_cons_of_mem _ member)
      have front := absent first List.mem_cons_self
      cases parts with
      | nil => simpa using front
      | cons second parts =>
          rw [List.intercalate_cons_cons]
          simp only [List.mem_append, List.mem_singleton]
          rintro ((inside | same) | inside)
          · exact front inside
          · exact apart same
          · exact later inside

/-- Parts that were written are read, but for those of which nothing is written. -/
theorem map_parameter_filter (query : List (String × String)) :
    ((query.map fun given => (parameterText given).toList).filter (!·.isEmpty)).map parameter =
      query.filter (· ≠ ("", "")) := by
  rw [List.filter_map, List.map_map]
  have kept : (query.filter ((!List.isEmpty ·) ∘ fun given => (parameterText given).toList)) =
      query.filter (· ≠ ("", "")) := by
    refine List.filter_congr fun given _ => ?_
    simp only [Function.comp_apply, ne_eq, ← parameterText_eq_empty,
      ← String.toList_eq_nil_iff]
    cases (parameterText given).toList <;> rfl
  rw [kept]
  exact (List.map_congr_left fun given _ => parameter_parameterText given).trans (List.map_id _)

/-- The text of a URL is read as the URL, without the parameters of which nothing is written. -/
theorem parse_text (given : url.path ≠ "") (noQuery : '?' ∉ url.path.toList)
    (noFragment : '#' ∉ url.path.toList) :
    parse url.text = { url with query := url.query.filter (· ≠ ("", "")) } := by
  have filled : url.path.toList.isEmpty = false := by simpa using given
  by_cases bare : url.query = []
  · rw [parse, toList_text_of_nil bare, Text.cut_of_not_mem noFragment,
      Text.cut_of_not_mem noQuery]
    simp [bare, filled, Text.pieces]
  · have whole := toList_text_of_ne_nil bare
    have parts (separator : Char) (noEscape : separator ≠ '%') (noEquals : separator ≠ '=')
        (marked : Text.Percent.isPlain (Text.Percent.toByte separator) = false) :
        ∀ part ∈ url.query.map fun given => (parameterText given).toList, separator ∉ part := by
      simp only [List.mem_map]
      rintro - ⟨given, -, rfl⟩
      exact not_mem_parameterText given noEscape noEquals marked
    have unbroken : '#' ∉ url.text.toList := by
      have absent := not_mem_intercalate (by decide) (parts '#' (by decide) (by decide) (by decide))
      simp [whole, noFragment, absent]
    have pieces : Text.pieces '&' (['&'].intercalate
        (url.query.map fun given => (parameterText given).toList)) =
          url.query.map fun given => (parameterText given).toList := by
      rw [Text.pieces_eq_splitOn, List.splitOn_intercalate]
      · exact parts '&' (by decide) (by decide) (by decide)
      · simpa using bare
    rw [parse, Text.cut_of_not_mem unbroken, whole, Text.cut_append noQuery]
    simp [filled, pieces, map_parameter_filter]

theorem path_parse (raw : String) :
    (parse raw).path ≠ "" ∧ '?' ∉ (parse raw).path.toList ∧ '#' ∉ (parse raw).path.toList := by
  have line := Text.not_mem_cut_fst '#' raw.toList
  have noQuery := Text.not_mem_cut_fst '?' (Text.cut '#' raw.toList).1
  have noFragment : '#' ∉ (Text.cut '?' (Text.cut '#' raw.toList).1).1 := by
    rw [← Text.cut_fst_append '?' (Text.cut '#' raw.toList).1] at line
    exact fun member => line (List.mem_append_left _ member)
  rw [parse]
  generalize Text.cut '?' (Text.cut '#' raw.toList).1 = halves at noQuery noFragment
  cases front : halves.1 with
  | nil => simp [front]
  | cons first rest =>
      rw [front] at noQuery noFragment
      refine ⟨?_, ?_, ?_⟩
      · simp [front, ← String.toList_eq_nil_iff]
      · simpa [front] using noQuery
      · simpa [front] using noFragment

/-- A raw URL is read the same after it was written anew, but for the bare `=` in its query. -/
theorem parse_text_parse (raw : String) :
    parse (parse raw).text = parse raw ↔ ['='] ∉ rawParts raw := by
  obtain ⟨given, noQuery, noFragment⟩ := path_parse raw
  have kept : (∀ given ∈ (parse raw).query, given ≠ ("", "")) ↔ ['='] ∉ rawParts raw := by
    simp only [query_parse, List.mem_map, List.mem_filter]
    constructor
    · intro filled bare
      exact filled _ ⟨['='], ⟨bare, rfl⟩, rfl⟩ rfl
    · rintro unbare - ⟨part, ⟨member, given⟩, rfl⟩ blank
      have written : part ≠ [] := by simpa using given
      rw [(parameter_eq_blank written).mp blank] at member
      exact unbare member
  rw [parse_text given noQuery noFragment, ← kept]
  constructor
  · intro same
    have whole : (parse raw).query.filter (· ≠ ("", "")) = (parse raw).query :=
      congrArg Url.query same
    simpa using List.filter_eq_self.mp whole
  · intro filled
    have whole : (parse raw).query.filter (· ≠ ("", "")) = (parse raw).query :=
      List.filter_eq_self.mpr (by simpa using filled)
    rw [whole]

/-- The text of a URL is read as the same path and the same parameters in the same order, without
those that have neither key nor value. Hence a raw URL is read the same after it was written anew
if and only if no part of its query is a bare `=`. -/
theorem text_round_trip :
    (∀ url : Url, url.path ≠ "" → '?' ∉ url.path.toList → '#' ∉ url.path.toList →
      parse url.text = ⟨url.path, url.query.filter (· ≠ ("", ""))⟩) ∧
    ∀ raw : String, parse (parse raw).text = parse raw ↔ ['='] ∉ rawParts raw :=
  ⟨fun _ => parse_text, parse_text_parse⟩

/-- Separators, spaces and signs in a parameter come back; a parameter without key and value does
not. -/
theorem text_round_trip_of_separators :
    let url : Url := ⟨"/~manage", [("a&b", "=c"), ("", ""), ("", "%+ #"), ("ü", "")]⟩
    url.path ≠ "" ∧ '?' ∉ url.path.toList ∧ '#' ∉ url.path.toList ∧
      parse url.text = ⟨"/~manage", [("a&b", "=c"), ("", "%+ #"), ("ü", "")]⟩ :=
  ⟨by decide, by decide, by decide, text_round_trip.1 _ (by decide) (by decide) (by decide)⟩

end RealmDesk.Url
