import ServiceWire.Http.Message
import ServiceWire.Http.UriTemplate
import ServiceWire.Http.UrlForm
import ServiceWire.Proofs.Codec.Success
import ServiceWire.Proofs.Text.Cut
import ServiceWire.Proofs.Text.Percent

/-!
# URLs taken apart

Percent-encoding writes none of the characters that separate the parts of a URL. So such a
character stands in an expanded path only where its template has it, and in written parameters only
between them, and a URL is taken apart at its first question mark into what it was put together
from.
-/

namespace ServiceWire

/-!
## Parameters in a URL read back

Texts that are written as parameters are read back as they were, in their order: no character of a
percent-encoded text separates names, values or parameters, so each cut undoes what was joined.
-/

namespace UrlForm

theorem decodePart_encode (s : String) : decodePart (Percent.encode s).toList = s := by
  have hplus : (Percent.encode s).toList.map (fun c => if c == '+' then ' ' else c) =
      (Percent.encode s).toList := by
    refine (List.map_congr_left fun c hc => if_neg ?_).trans (List.map_id _)
    rw [beq_iff_eq]
    rintro rfl
    exact Percent.isWritten_of_mem_encode hc (by decide)
  rw [decodePart, hplus, Percent.decode_encode]

theorem toList_encodePair (name value : String) :
    (encodePair (.str name, .str value)).toList =
      (Percent.encode name).toList ++ '=' :: (Percent.encode value).toList := by
  rw [encodePair, String.toList_append, String.toList_append, List.append_assoc]
  rfl

theorem decodePiece_encodePair (name value : String) :
    decodePiece (encodePair (.str name, .str value)).toList = some (name, value) := by
  have hname : '=' ∉ (Percent.encode name).toList := fun h =>
    Percent.isWritten_of_mem_encode h (by decide)
  rw [toList_encodePair, decodePiece, if_neg (by simp), Text.cut?_append hname]
  simp only [decodePart_encode]

theorem not_mem_encodePair (name value : String) :
    '&' ∉ (encodePair (.str name, .str value)).toList := by
  rw [toList_encodePair]
  intro h
  rcases List.mem_append.mp h with h | h
  · exact Percent.isWritten_of_mem_encode h (by decide)
  · rcases List.mem_cons.mp h with h | h
    · cases h
    · exact Percent.isWritten_of_mem_encode h (by decide)

/-- Texts that were written as parameters are read back, in their order. -/
theorem decode_encode (pairs : List (String × String)) : decode (encode (ofTexts pairs)) = pairs := by
  cases pairs with
  | nil => rfl
  | cons p rest =>
    have hparts : ∀ s ∈ (ofTexts (p :: rest)).map encodePair, '&' ∉ s.toList := by
      intro s hs
      obtain ⟨q, hq, rfl⟩ := List.mem_map.mp hs
      obtain ⟨q, -, rfl⟩ := List.mem_map.mp hq
      exact not_mem_encodePair q.1 q.2
    have hne : (ofTexts (p :: rest)).map encodePair ≠ [] := List.cons_ne_nil _ _
    rw [decode, encode, Text.pieces_join rfl hne hparts, List.filterMap_map, ofTexts,
      List.map_map, List.filterMap_map]
    simp only [Function.comp_def, decodePiece_encodePair, List.filterMap_cons, Prod.mk.eta,
      List.filterMap_some]

end UrlForm

/-!
## The parts of a URL
-/

namespace Text

theorem fst_cut?_getD {α : Type} [BEq α] (sep : α) (cs : List α) :
    ((cut? sep cs).getD (cs, [])).1 = beforeFirst sep cs := by
  induction cs with
  | nil => rfl
  | cons c rest ih =>
    rw [cut?, beforeFirst, List.takeWhile_cons]
    cases c == sep with
    | true => rfl
    | false =>
      rw [if_neg Bool.false_ne_true, Bool.not_false, if_pos rfl, ← beforeFirst, ← ih]
      cases cut? sep rest <;> rfl

end Text

namespace UriTemplate

/-- The template of a path has no question mark. -/
theorem not_mem_fst_split (uri : String) : '?' ∉ (split uri).1.toList := by
  rw [split]
  dsimp only
  split
  · decide
  · rw [String.toList_ofList, Text.fst_cut?_getD]
    exact Text.not_mem_beforeFirst '?' _

/-- The template of a path begins as the request URI does. -/
theorem exists_fst_split {uri : String} {rest : List Char} (h : uri.toList = '/' :: rest) :
    ∃ after, (split uri).1.toList = '/' :: after := by
  have hfirst : ((Text.cut? '?' uri.toList).getD (uri.toList, [])).1 =
      '/' :: Text.beforeFirst '?' rest := by
    rw [Text.fst_cut?_getD, h]
    rfl
  refine ⟨Text.beforeFirst '?' rest, ?_⟩
  rw [split]
  dsimp only
  rw [hfirst, List.isEmpty_cons, if_neg Bool.false_ne_true, String.toList_ofList]

/-- A character that stands for itself is one of the template, or the brace of a label that is
not closed. -/
theorem literal_not_mem {kept : Option (List Char)} {cs : List Char} {c : Char}
    (brace : c ≠ '\x7b') (hkept : c ∉ kept.getD []) (hcs : c ∉ cs) :
    .literal c ∉ piecesFrom kept cs := by
  fun_induction piecesFrom kept cs with
  | case1 => exact List.not_mem_nil
  | case2 kept =>
    simpa [brace] using hkept
  | case3 rest ih => exact ih List.not_mem_nil (List.not_mem_of_not_mem_cons hcs)
  | case4 d rest _ ih =>
    have hrest := ih List.not_mem_nil (List.not_mem_of_not_mem_cons hcs)
    simpa [hrest] using List.ne_of_not_mem_cons hcs
  | case5 kept rest _ ih =>
    have hrest := ih List.not_mem_nil (List.not_mem_of_not_mem_cons hcs)
    simpa [hrest, brace] using List.ne_of_not_mem_cons hcs
  | case6 kept rest _ ih =>
    have hrest := ih List.not_mem_nil (List.not_mem_of_not_mem_cons hcs)
    simpa using hrest
  | case7 kept d rest _ ih =>
    refine ih ?_ (List.not_mem_of_not_mem_cons hcs)
    exact List.not_mem_cons_of_ne_of_not_mem (List.ne_of_not_mem_cons hcs) hkept

/-! ### Expanded templates -/

section Expanded

variable {c : Char} (escaped : Percent.IsEscaped c)

include escaped

theorem not_mem_encodeText (slash : c ≠ '/') (greedy : Bool) (value : String) :
    c ∉ (encodeText greedy value).toList := by
  intro h
  cases greedy with
  | false => exact Percent.not_mem_encode escaped value h
  | true =>
    rcases Text.mem_join h with h | ⟨s, hs, h⟩
    · exact slash (List.mem_singleton.mp h)
    · obtain ⟨cs, -, rfl⟩ := List.mem_map.mp hs
      exact Percent.not_mem_encode escaped _ h

theorem not_mem_encodeLabel (slash : c ≠ '/') {greedy : Bool} {v : Value} {s : String}
    (h : encodeLabel greedy v = .ok s) : c ∉ s.toList := by
  cases v with
  | str value =>
    cases h
    exact not_mem_encodeText escaped slash greedy value
  | bytes form data =>
    cases form <;> cases greedy <;> cases h
    all_goals
      rw [String.toList_ofList]
      exact Percent.not_mem_encodeBytes escaped data
  | _ => cases h

/-- A character that is always encoded stands in an expanded path only where the template has it,
whatever the values of the labels are. -/
theorem not_mem_expand (slash : c ≠ '/') {template : String}
    (literal : .literal c ∉ pieces template) {labels : List (String × Value)} {path : String}
    (h : expand template labels = .ok path) : c ∉ path.toList := by
  obtain ⟨parts, hparts, heq⟩ := exists_of_bind h
  cases heq
  intro hc
  rw [String.toList_join, List.mem_flatMap] at hc
  obtain ⟨part, hpart, hc⟩ := hc
  obtain ⟨piece, hpiece, hexpand⟩ := exists_of_mem_mapM hparts hpart
  cases piece with
  | literal d =>
    cases hexpand
    rw [String.toList_singleton, List.mem_singleton] at hc
    exact literal (hc ▸ hpiece)
  | label text =>
    rw [expandPiece] at hexpand
    dsimp only at hexpand
    split at hexpand
    · exact not_mem_encodeLabel escaped slash hexpand hc
    · cases hexpand

end Expanded

/-- An expanded path begins with the slash of its template. -/
theorem exists_expand_slash {template : String} {rest : List Char}
    (rooted : template.toList = '/' :: rest) {labels : List (String × Value)} {path : String}
    (h : expand template labels = .ok path) : ∃ after, path.toList = '/' :: after := by
  obtain ⟨parts, hparts, heq⟩ := exists_of_bind h
  cases heq
  have hpieces : pieces template = .literal '/' :: piecesFrom none rest := by
    rw [pieces, rooted, piecesFrom, if_neg (by decide)]
  rw [hpieces, List.mapM_cons] at hparts
  obtain ⟨first, hfirst, hparts⟩ := exists_of_bind hparts
  obtain ⟨others, -, hparts⟩ := exists_of_bind hparts
  cases hfirst
  cases hparts
  refine ⟨others.flatMap String.toList, ?_⟩
  rw [String.toList_join, List.flatMap_cons]
  rfl

end UriTemplate

namespace UrlForm

/-- A character that is always encoded stands in written parameters only between them. -/
theorem not_mem_encode {c : Char} (escaped : Percent.IsEscaped c) (ampersand : c ≠ '&')
    (equal : c ≠ '=') (pairs : List (String × String)) : c ∉ (encode (ofTexts pairs)).toList := by
  intro h
  rcases Text.mem_join h with h | ⟨s, hs, h⟩
  · exact ampersand (List.mem_singleton.mp h)
  · obtain ⟨p, hp, rfl⟩ := List.mem_map.mp hs
    obtain ⟨p, -, rfl⟩ := List.mem_map.mp hp
    rw [toList_encodePair, List.mem_append, List.mem_cons] at h
    rcases h with h | h | h
    · exact Percent.not_mem_encode escaped _ h
    · exact equal h
    · exact Percent.not_mem_encode escaped _ h

end UrlForm

namespace Http

/-- What stands before the first question mark of a URL, and the parameters behind it. -/
def urlParts (url : String) : String × List (String × String) :=
  match Text.cut? '?' url.toList with
  | some (front, rest) => (String.ofList front, UrlForm.decode (String.ofList rest))
  | none => (url, [])

/-- The slashes at the end of an endpoint. -/
def slashes (n : Nat) : String := String.ofList (List.replicate n '/')

/-- A host, or a scheme and a host: a text without a slash at its end, a query and a fragment. -/
structure IsHost (host : String) : Prop where
  nonempty : host ≠ ""
  trimmed : host.toList.getLast? ≠ some '/'
  plain : '?' ∉ host.toList ∧ '#' ∉ host.toList

theorem not_mem_withScheme {host : String} {c : Char} (hc : c ∉ host.toList)
    (scheme : c ∉ "https://".toList) : c ∉ (withScheme host "https").toList := by
  rw [withScheme]
  split
  · exact hc
  · change c ∉ ("https" ++ "://" ++ host).toList
    rw [String.toList_append, List.mem_append]
    exact fun h => h.elim scheme hc

namespace Request

variable {r : Request} {host : String}

/-- The slashes at the end of an endpoint are removed, and it has a scheme. -/
theorem base_eq (h : IsHost host) {n : Nat} (endpoint : r.endpoint = .str (host ++ slashes n)) :
    r.base = .ok (withScheme host "https") := by
  have hhost : host.toList ≠ [] := fun heq => h.nonempty (String.toList_eq_nil_iff.mp heq)
  have htruthy : r.endpoint.truthy = true := by
    rw [endpoint]
    simp [Value.truthy, h.nonempty]
  have hslashes : ∀ c ∈ List.replicate n '/', (c == '/') = true := by
    intro c hc
    rw [List.eq_of_mem_replicate hc]
    rfl
  have htrimmed : (((host ++ slashes n).toList.reverse.dropWhile fun c => c == '/').reverse) =
      host.toList := by
    rw [String.toList_append, slashes, String.toList_ofList, List.reverse_append,
      List.reverse_replicate, List.dropWhile_append_of_pos hslashes, ← List.reverse_inj,
      List.reverse_reverse]
    cases hlast : host.toList.reverse with
    | nil => rfl
    | cons c rest =>
      refine List.dropWhile_cons_of_neg ?_
      rw [beq_iff_eq]
      rintro rfl
      refine h.trimmed ?_
      rw [← List.head?_reverse, hlast]
      rfl
  rw [base, htruthy, if_pos rfl, endpoint, Value.asText, ok_bind]
  dsimp only
  rw [htrimmed, String.ofList_toList, if_neg (by simpa using h.nonempty)]
  rfl

end Request

/-! ### Whole URLs -/

/-- Text pairs as they stand behind a path. -/
def queryText (pairs : List (String × String)) : String :=
  if pairs.isEmpty then "" else "?" ++ UrlForm.encode (UrlForm.ofTexts pairs)

theorem Request.url_eq {r : Request} {base : String} {pairs : List (String × String)}
    (hbase : r.base = .ok base) (query : r.query = UrlForm.ofTexts pairs) :
    r.url = .ok (base ++ r.path ++ queryText pairs) := by
  rw [url, hbase, ok_bind, query, UrlForm.ofTexts, List.isEmpty_map]
  rfl

/-- A URL is taken apart at its first question mark into what it was put together from. -/
theorem urlParts_append {front : String} (h : '?' ∉ front.toList)
    (pairs : List (String × String)) : urlParts (front ++ queryText pairs) = (front, pairs) := by
  cases pairs with
  | nil =>
    have hcut : Text.cut? '?' (front ++ queryText []).toList = none := by
      rw [queryText, List.isEmpty_nil, if_pos rfl, String.append_empty, Text.cut?_of_not_mem h]
    rw [urlParts, hcut]
    exact congrArg (·, []) (String.append_empty ..)
  | cons p rest =>
    have htext : (front ++ queryText (p :: rest)).toList =
        front.toList ++ '?' :: (UrlForm.encode (UrlForm.ofTexts (p :: rest))).toList := by
      rw [queryText, List.isEmpty_cons, if_neg Bool.false_ne_true, String.toList_append,
        String.toList_append]
      rfl
    rw [urlParts, htext, Text.cut?_append h]
    dsimp only
    rw [String.ofList_toList, String.ofList_toList, UrlForm.decode_encode]

theorem not_mem_queryText {c : Char} (escaped : Percent.IsEscaped c)
    (separator : c ∉ ['?', '&', '=']) (pairs : List (String × String)) :
    c ∉ (queryText pairs).toList := by
  simp only [List.mem_cons, List.not_mem_nil, or_false, not_or] at separator
  rw [queryText]
  split
  · exact List.not_mem_nil
  · rw [String.toList_append, List.mem_append]
    rintro (h | h)
    · exact separator.1 (List.mem_singleton.mp h)
    · exact UrlForm.not_mem_encode escaped separator.2.1 separator.2.2 pairs h

end Http

end ServiceWire
