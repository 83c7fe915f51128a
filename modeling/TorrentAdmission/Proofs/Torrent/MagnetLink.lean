import TorrentAdmission.Magnet
import TorrentAdmission.Proofs.Torrent.Metadata
import TorrentAdmission.Proofs.Uri.FormData
import TorrentAdmission.Proofs.Uri.Query

/-!
# What a magnet link says

The query of a magnet link is a list of pairs. Three keys count, each by itself: the first topic that names a
hash, the first name that is not blank, and all trackers. `parse?_encode` says so of the text of a link, for
pairs of any characters.
-/

namespace TorrentAdmission.MagnetLink

open Text

/-! ### Single pairs -/

/-- The hash that this pair names, were it the only one. -/
def hashOf? (pair : String × String) : Option String :=
  if pair.1 = "xt" then topicHash? pair.2 else none

def nameOf? (pair : String × String) : Option String :=
  if pair.1 = "dn" then shownName? pair.2 else none

def trackerOf? (pair : String × String) : Option String :=
  if pair.1 = "tr" ∧ pair.2 ≠ "" then some pair.2 else none

theorem topicHash?_eq_some {topic hash : String} : topicHash? topic = some hash ↔
    ∃ rest, topic = "urn:btih:" ++ rest ∧ rest ≠ "" ∧ hash = toLowerAscii rest := by
  have length : ∀ rest : String, ("urn:btih:" ++ rest).toList.length ≠ hashNamespace.toList.length ↔ rest ≠ "" := by
    intro rest
    rw [String.toList_append, List.length_append, hashNamespace]
    simp
  simp only [topicHash?, Option.ite_none_right_eq_some, Option.some_inj, List.isPrefixOf_iff_prefix]
  constructor
  · rintro ⟨⟨⟨rest, split⟩, more⟩, rfl⟩
    have same : topic = "urn:btih:" ++ .ofList rest := by
      rw [← String.toList_inj, ← split, String.toList_append]
      exact congrArg (hashNamespace.toList ++ ·) String.toList_ofList.symm
    refine ⟨.ofList rest, same, (length _).mp (same ▸ more), ?_⟩
    rw [← split, List.drop_left]
  · rintro ⟨rest, rfl, some, rfl⟩
    refine ⟨⟨⟨rest.toList, ?_⟩, (length rest).mpr some⟩, ?_⟩
    · rw [String.toList_append]
      rfl
    · rw [String.toList_append]
      exact congrArg toLowerAscii (String.ofList_toList)

theorem shownName?_eq_some {value name : String} : shownName? value = some name ↔
    isBlankText value = false ∧ name = trim value := by
  have blank : (trim value).isEmpty = isBlankText value := by
    rw [Bool.eq_iff_iff, String.isEmpty_iff, trim, isBlankText, List.all_eq_true, ← trimChars_eq_nil,
      String.ofList_eq_empty_iff]
  unfold shownName?
  dsimp only
  rw [blank]
  cases isBlankText value with
  | true => simp
  | false => simp [eq_comm]

theorem hashOf?_eq_some {pair : String × String} {hash : String} : hashOf? pair = some hash ↔
    ∃ rest, pair = ("xt", "urn:btih:" ++ rest) ∧ rest ≠ "" ∧ hash = toLowerAscii rest := by
  obtain ⟨key, topic⟩ := pair
  simp only [hashOf?, Option.ite_none_right_eq_some, topicHash?_eq_some, Prod.mk.injEq]
  grind

theorem nameOf?_eq_some {pair : String × String} {name : String} : nameOf? pair = some name ↔
    ∃ value, pair = ("dn", value) ∧ isBlankText value = false ∧ name = trim value := by
  obtain ⟨key, value⟩ := pair
  simp only [nameOf?, Option.ite_none_right_eq_some, shownName?_eq_some, Prod.mk.injEq]
  grind

theorem addPair_eq (link : MagnetLink) (pair : String × String) : link.addPair pair =
    ⟨link.infoHash.or (hashOf? pair), link.displayName.or (nameOf? pair),
      link.trackers ++ (trackerOf? pair).toList⟩ := by
  obtain ⟨key, value⟩ := pair
  unfold addPair hashOf? nameOf? trackerOf?
  dsimp only
  split
  · rename_i topic
    simp [topic]
  · split
    · rename_i name
      simp [name]
    · split
      · rename_i tracker
        simp_all
      · rename_i other
        have noTracker : ¬ (key = "tr" ∧ value ≠ "") := by simpa using other
        rw [if_neg noTracker]
        simp

/-! ### All pairs -/

theorem foldl_addPair (link : MagnetLink) (pairs : List (String × String)) : pairs.foldl addPair link =
    ⟨link.infoHash.or (pairs.findSome? hashOf?), link.displayName.or (pairs.findSome? nameOf?),
      link.trackers ++ pairs.filterMap trackerOf?⟩ := by
  induction pairs generalizing link with
  | nil => simp
  | cons pair rest ih =>
    rw [List.foldl_cons, ih, addPair_eq]
    have first : ∀ f : String × String → Option String, ∀ known : Option String,
        (known.or (f pair)).or (rest.findSome? f) = known.or ((pair :: rest).findSome? f) := by
      intro f known
      rw [Option.or_assoc, List.findSome?_cons]
      cases f pair <;> rfl
    have listed : (trackerOf? pair).toList ++ rest.filterMap trackerOf? = (pair :: rest).filterMap trackerOf? := by
      rw [List.filterMap_cons]
      cases trackerOf? pair <;> rfl
    rw [first, first, List.append_assoc, listed]

theorem ofPairs_eq (pairs : List (String × String)) : ofPairs pairs =
    ⟨pairs.findSome? hashOf?, pairs.findSome? nameOf?, pairs.filterMap trackerOf?⟩ := foldl_addPair _ pairs

/-- What is read from pairs with one key depends on these pairs only. -/
theorem filterMap_keyed {f : String × String → Option String} {key : String}
    (keyed : ∀ pair, pair.1 ≠ key → f pair = none) (pairs : List (String × String)) :
    (pairs.filter (·.1 == key)).filterMap f = pairs.filterMap f := by
  rw [List.filterMap_filter]
  refine congrArg (List.filterMap · pairs) (funext fun pair => ?_)
  by_cases same : pair.1 = key
  · exact if_pos (beq_iff_eq.mpr same)
  · rw [keyed pair same, ite_self]

theorem ofPairs_congr {pairs others : List (String × String)}
    (same : ∀ key ∈ ["xt", "dn", "tr"], others.filter (·.1 == key) = pairs.filter (·.1 == key)) :
    ofPairs others = ofPairs pairs := by
  have equal : ∀ f : String × String → Option String, ∀ key ∈ ["xt", "dn", "tr"],
      (∀ pair, pair.1 ≠ key → f pair = none) → others.filterMap f = pairs.filterMap f := by
    intro f key member keyed
    rw [← filterMap_keyed keyed others, same key member, filterMap_keyed keyed pairs]
  rw [ofPairs_eq, ofPairs_eq, ← List.head?_filterMap, ← List.head?_filterMap, ← List.head?_filterMap,
    ← List.head?_filterMap, equal hashOf? "xt" (by decide) fun _ other => if_neg other,
    equal nameOf? "dn" (by decide) fun _ other => if_neg other,
    equal trackerOf? "tr" (by decide) fun _ other => if_neg fun ⟨tracker, _⟩ => other tracker]

theorem infoHash_ofPairs {pairs : List (String × String)} {hash : String} :
    (ofPairs pairs).infoHash = some hash ↔ ∃ before rest after,
      pairs = before ++ ("xt", "urn:btih:" ++ rest) :: after ∧ rest ≠ "" ∧ hash = toLowerAscii rest ∧
        ∀ other, other ≠ "" → ("xt", "urn:btih:" ++ other) ∉ before := by
  have absent : ∀ pair : String × String, hashOf? pair = none ↔
      ∀ other, other ≠ "" → pair ≠ ("xt", "urn:btih:" ++ other) := by
    intro pair
    simp only [Option.eq_none_iff_forall_ne_some, ne_eq, hashOf?_eq_some]
    grind
  simp only [ofPairs_eq, List.findSome?_eq_some_iff, hashOf?_eq_some, absent]
  grind

theorem displayName_ofPairs {pairs : List (String × String)} {name : String} :
    (ofPairs pairs).displayName = some name ↔ ∃ before value after,
      pairs = before ++ ("dn", value) :: after ∧ isBlankText value = false ∧ name = trim value ∧
        ∀ other, isBlankText other = false → ("dn", other) ∉ before := by
  have absent : ∀ pair : String × String, nameOf? pair = none ↔
      ∀ other, isBlankText other = false → pair ≠ ("dn", other) := by
    intro pair
    simp only [Option.eq_none_iff_forall_ne_some, ne_eq, nameOf?_eq_some]
    grind
  simp only [ofPairs_eq, List.findSome?_eq_some_iff, nameOf?_eq_some, absent]
  grind

theorem trackers_ofPairs (pairs : List (String × String)) : (ofPairs pairs).trackers =
    (pairs.filter fun pair => decide (pair.1 = "tr" ∧ pair.2 ≠ "")).map Prod.snd := by
  rw [ofPairs_eq, ← List.filterMap_eq_map, List.filterMap_filter]
  exact congrArg (List.filterMap · pairs) (funext fun pair => by simp [trackerOf?])

/-! ### Texts -/

/-- Whatever stands behind the question mark, its pairs are read. -/
theorem parse?_of_clean {text : String} {query : List Char}
    (cleaned : Uri.clean text.toList = "magnet:?".toList ++ query) :
    parse? text = some (ofPairs (Uri.FormData.pairs (query.takeWhile (· != '#')))) := by
  have letter : isAsciiLetter 'm' = true := by decide
  have inner : ['a', 'g', 'n', 'e', 't'].all Uri.isSchemeChar = true := by decide
  have magnet : String.ofList (('m' :: ['a', 'g', 'n', 'e', 't']).map lowerAscii) = scheme := by decide
  have front : "magnet:?".toList ++ query = 'm' :: ['a', 'g', 'n', 'e', 't'] ++ ':' :: '?' :: query := by simp
  rw [parse?, Uri.parse?_query letter (List.all_eq_true.mp inner) (cleaned.trans front), Option.bind_eq_bind,
    Option.bind_some, if_pos magnet, Option.getD_some]

theorem head_visible : ∀ c ∈ "magnet:?".toList, 0x20 < c.toNat := by simp

theorem parse?_encode_eq (pairs : List (String × String)) :
    parse? ("magnet:?" ++ .ofList (Uri.FormData.encode pairs)) = some (ofPairs pairs) := by
  have visible := Uri.FormData.encode_visible pairs
  have written : ("magnet:?" ++ .ofList (Uri.FormData.encode pairs) : String).toList =
      "magnet:?".toList ++ Uri.FormData.encode pairs :=
    String.toList_append.trans (congrArg ("magnet:?".toList ++ ·) String.toList_ofList)
  have plain : ∀ c ∈ "magnet:?".toList ++ Uri.FormData.encode pairs, 0x20 < c.toNat := fun c member =>
    (List.mem_append.mp member).elim (head_visible c) fun query => (visible c query).1
  have whole : (Uri.FormData.encode pairs).takeWhile (· != '#') = Uri.FormData.encode pairs :=
    List.takeWhile_eq_self_iff.mpr fun c member => bne_iff_ne.mpr (visible c member).2.2
  rw [parse?_of_clean ((congrArg Uri.clean written).trans (Uri.clean_visible plain)), whole, Uri.FormData.pairs_encode]

/-- A link says what its pairs say, each key by itself. -/
theorem parse?_encode (pairs : List (String × String)) :
    ∃ link, parse? ("magnet:?" ++ .ofList (Uri.FormData.encode pairs)) = some link ∧
      (∀ hash, link.infoHash = some hash ↔ ∃ before rest after,
        pairs = before ++ ("xt", "urn:btih:" ++ rest) :: after ∧ rest ≠ "" ∧ hash = toLowerAscii rest ∧
          ∀ other, other ≠ "" → ("xt", "urn:btih:" ++ other) ∉ before) ∧
      (∀ name, link.displayName = some name ↔ ∃ before value after,
        pairs = before ++ ("dn", value) :: after ∧ isBlankText value = false ∧ name = trim value ∧
          ∀ other, isBlankText other = false → ("dn", other) ∉ before) ∧
      link.trackers = (pairs.filter fun pair => decide (pair.1 = "tr" ∧ pair.2 ≠ "")).map Prod.snd ∧
      ∀ others, (∀ key ∈ ["xt", "dn", "tr"], others.filter (·.1 == key) = pairs.filter (·.1 == key)) →
        parse? ("magnet:?" ++ .ofList (Uri.FormData.encode others)) = some link := by
  refine ⟨ofPairs pairs, parse?_encode_eq pairs, fun _ => infoHash_ofPairs, fun _ => displayName_ofPairs,
    trackers_ofPairs pairs, fun others same => ?_⟩
  rw [parse?_encode_eq, ofPairs_congr same]

theorem reordered_link_parsed :
    ∃ link, parse? ("magnet:?" ++ .ofList (Uri.FormData.encode [("dn", " "), ("xt", "urn:md5:AB"),
        ("tr", "a&b=c+d%23#"), ("xt", "urn:btih:AB"), ("dn", " ü "), ("tr", ""), ("tr", "a&b=c+d%23#")])) = some link ∧
      link = ⟨some "ab", some "ü", ["a&b=c+d%23#", "a&b=c+d%23#"]⟩ ∧
      parse? ("magnet:?" ++ .ofList (Uri.FormData.encode [("xt", "urn:md5:AB"), ("xt", "urn:btih:AB"), ("x.pe", "1"),
        ("tr", "a&b=c+d%23#"), ("tr", ""), ("tr", "a&b=c+d%23#"), ("dn", " "), ("dn", " ü ")])) = some link := by
  obtain ⟨link, parsed, hash, name, trackers, keyed⟩ := parse?_encode [("dn", " "), ("xt", "urn:md5:AB"),
    ("tr", "a&b=c+d%23#"), ("xt", "urn:btih:AB"), ("dn", " ü "), ("tr", ""), ("tr", "a&b=c+d%23#")]
  have hash' : link.infoHash = some "ab" := by
    refine (hash "ab").mpr ⟨[_, _, _], "AB", _, rfl, by decide, by decide, fun other _ member => ?_⟩
    have same : "urn:btih:" ++ other = "urn:md5:AB" := by simpa using member
    have front := congrArg (·.toList.take 9) same
    simp at front
  have name' : link.displayName = some "ü" := by
    refine (name "ü").mpr ⟨[_, _, _, _], " ü ", _, rfl, by decide, by decide, fun other shown member => ?_⟩
    have same : other = " " := by simpa using member
    exact absurd shown (same ▸ by decide)
  refine ⟨link, parsed, ?_, keyed _ (by decide)⟩
  calc link = ⟨link.infoHash, link.displayName, link.trackers⟩ := rfl
    _ = ⟨some "ab", some "ü", ["a&b=c+d%23#", "a&b=c+d%23#"]⟩ := by rw [hash', name', trackers]; decide

end TorrentAdmission.MagnetLink
