import CommandGen.Proofs.Tag.Entries
import CommandGen.Proofs.Text.Pieces

/-! Which annotations can be read, what their tags are, and which token is reported where one
cannot. -/
namespace CommandGen

/-- The tokens of an annotation: all that stands between its spaces, be it nothing. -/
structure IsCutInto (body : String) (tokens : List String) : Prop where
  joined : " ".intercalate tokens = body
  ne_nil : tokens ≠ []
  noSpace : ∀ t ∈ tokens, ' ' ∉ t.toList

/-- A token is cut into key and value at its first colon. -/
structure IsTag (token key value : String) : Prop where
  joined : key ++ ":" ++ value = token
  noColon : ':' ∉ key.toList

/-- Values stand between two quotes; one quote alone does not do for both. -/
structure IsQuoted (value : String) : Prop where
  two : 2 ≤ value.length
  first : value.toList.head? = some '"'
  last : value.toList.getLast? = some '"'

/-- Nothing is asked of a token without a colon. -/
def IsReadable (token : String) : Prop := ∀ key value, IsTag token key value → IsQuoted value

def hasColon (token : String) : Bool := token.toList.contains ':'

/-- The pairs that tokens stand for, the values without their quotes. -/
def AreTagsOf (tokens : List String) (pairs : List (String × String)) : Prop :=
  List.Forall₂ (fun t p => IsTag t p.1 ("\"" ++ p.2 ++ "\"")) (tokens.filter hasColon) pairs

/-- The fault of the first token that cannot be read. -/
def FirstFault (tokens : List String) (e : MalformedTag) : Prop :=
  ∃ before t after, tokens = before ++ t :: after ∧ (∀ u ∈ before, IsReadable u) ∧
    IsTag t e.key e.value ∧ ¬ IsQuoted e.value

variable {body token key value : String} {tokens ts : List String} {s v : List Char} {tags : TagSet}
  {e : MalformedTag}

def spacedTokens (body : String) : List String :=
  (Text.pieces (· == ' ') body.toList).map String.ofList

theorem isCutInto_iff : IsCutInto body tokens ↔ tokens = spacedTokens body := by
  unfold spacedTokens
  constructor
  · rintro ⟨rfl, hne, hspace⟩
    have hfree : ∀ l ∈ tokens.map String.toList, ∀ x ∈ l, (x == ' ') = false := by
      rintro _ hl x hx
      obtain ⟨t, ht, rfl⟩ := List.mem_map.mp hl
      simpa using fun he : x = ' ' => hspace t ht (he ▸ hx)
    have hpieces :=
      @Text.pieces_intercalate (· == ' ') ' ' rfl _ (List.map_eq_nil_iff.not.mpr hne) hfree
    have hjoined : (" ".intercalate tokens).toList = [' '].intercalate (tokens.map String.toList) :=
      String.toList_intercalate
    rw [hjoined, hpieces]
    simp
  · rintro rfl
    refine ⟨?_, by simp [Text.pieces_ne_nil], ?_⟩
    · have h := Text.intercalate_pieces ' ' body.toList
      simpa [← String.toList_inj, String.toList_intercalate, Function.comp_def] using h
    · intro t ht hm
      obtain ⟨piece, hpiece, rfl⟩ := List.mem_map.mp ht
      simpa using Text.not_sep_of_mem_pieces hpiece ' ' (by simpa using hm)

theorem tagToken_eq_some_iff :
    tagToken token.toList = some (key, s) ↔ IsTag token key (String.ofList s) := by
  have hcut : tagToken token.toList = some (key, s) ↔
      Text.cutAt ':' token.toList = some (key.toList, s) := by
    simp only [tagToken, Option.map_eq_some_iff, Prod.exists, Prod.mk.injEq]
    constructor
    · rintro ⟨a, b, hab, rfl, rfl⟩
      simpa using hab
    · intro h
      exact ⟨_, _, h, by simp, rfl⟩
  rw [hcut, Text.cutAt_eq_some_iff]
  constructor
  · rintro ⟨hjoined, hcolon⟩
    exact ⟨by simp [← String.toList_inj, hjoined], hcolon⟩
  · rintro ⟨rfl, hcolon⟩
    exact ⟨by simp, hcolon⟩

theorem tagToken_eq_none_iff : tagToken token.toList = none ↔ hasColon token = false := by
  simp [tagToken, Text.cutAt_eq_none_iff, hasColon]

theorem IsTag.unique {key' value' : String} (h : IsTag token key value)
    (h' : IsTag token key' value') :
    key = key' ∧ value = value' := by
  have hcut : tagToken token.toList = some (key, value.toList) :=
    tagToken_eq_some_iff.mpr (by simpa using h)
  have hcut' : tagToken token.toList = some (key', value'.toList) :=
    tagToken_eq_some_iff.mpr (by simpa using h')
  simpa [hcut, String.toList_inj] using hcut'

theorem IsTag.hasColon (h : IsTag token key value) : hasColon token = true := by
  simp [CommandGen.hasColon, ← h.joined]

theorem IsTag.isReadable_iff (h : IsTag token key value) : IsReadable token ↔ IsQuoted value := by
  refine ⟨fun hr => hr key value h, fun hq key' value' h' => ?_⟩
  rwa [← (h.unique h').2]

theorem isReadable_of_not_hasColon (h : hasColon token = false) : IsReadable token := by
  intro key value htag
  rw [htag.hasColon] at h
  cases h

theorem unwrapQuotes_eq_some_iff : unwrapQuotes s = some v ↔ s = '"' :: (v ++ ['"']) := by
  unfold unwrapQuotes
  split
  · rename_i rest
    rw [Option.ite_none_right_eq_some, List.getLast?_eq_some_iff]
    constructor
    · rintro ⟨⟨front, rfl⟩, hv⟩
      simpa using hv
    · intro h
      obtain rfl : rest = v ++ ['"'] := by simpa using h
      simp
  · rename_i hne
    simp only [reduceCtorEq, false_iff]
    exact hne _

theorem isQuoted_iff : IsQuoted (String.ofList s) ↔ ∃ v, unwrapQuotes s = some v := by
  simp only [unwrapQuotes_eq_some_iff]
  constructor
  · rintro ⟨htwo, hfirst, hlast⟩
    cases s with
    | nil => simp at hfirst
    | cons c rest =>
      obtain rfl : c = '"' := by simpa using hfirst
      cases rest using List.reverseRecOn with
      | nil =>
        rw [String.length_ofList] at htwo
        simp at htwo
      | append_singleton v d =>
        obtain rfl : d = '"' := by simpa [List.getLast?_cons] using hlast
        exact ⟨v, rfl⟩
  · rintro ⟨v, rfl⟩
    refine ⟨?_, by simp, by simp [List.getLast?_cons]⟩
    rw [String.length_ofList]
    simp

theorem ofList_of_unwrapQuotes (h : unwrapQuotes s = some v) :
    String.ofList s = "\"" ++ String.ofList v ++ "\"" := by
  simp [← String.toList_inj, unwrapQuotes_eq_some_iff.mp h]

theorem isQuoted_wrap (value : String) : IsQuoted ("\"" ++ value ++ "\"") := by
  have hvalue : unwrapQuotes ('"' :: (value.toList ++ ['"'])) = some value.toList :=
    unwrapQuotes_eq_some_iff.mpr rfl
  have htext := ofList_of_unwrapQuotes hvalue
  rw [String.ofList_toList] at htext
  exact htext ▸ isQuoted_iff.mpr ⟨_, hvalue⟩

theorem AreTagsOf.unique {pairs others : List (String × String)} (h : AreTagsOf tokens pairs)
    (h' : AreTagsOf tokens others) : pairs = others := by
  refine Relator.RightUnique.forall₂ (fun t p q hp hq => ?_) h h'
  obtain ⟨hkey, hvalue⟩ := hp.unique hq
  exact Prod.ext hkey (by simpa using hvalue)

theorem AreTagsOf.exists_tag {pairs : List (String × String)} {p : String × String}
    (h : AreTagsOf tokens pairs) (hp : p ∈ pairs) :
    ∃ t ∈ tokens, IsTag t p.1 ("\"" ++ p.2 ++ "\"") := by
  obtain ⟨i, hi, rfl⟩ := List.mem_iff_getElem.mp hp
  have hi' : i < (tokens.filter hasColon).length := h.length_eq ▸ hi
  exact ⟨_, (List.mem_filter.mp (List.getElem_mem hi')).1, h.get hi' hi⟩

theorem tagTokens_eq (h : IsCutInto body tokens) :
    tagTokens body = tokens.filterMap fun t => tagToken t.toList := by
  rw [isCutInto_iff.mp h, tagTokens, spacedTokens, List.filterMap_map]
  refine List.filterMap_congr fun piece _ => ?_
  simp

theorem filterMap_tagToken (tokens : List String) : tokens.filterMap (fun t => tagToken t.toList) =
    (tokens.filter hasColon).filterMap fun t => tagToken t.toList := by
  rw [List.filterMap_filter]
  refine List.filterMap_congr fun t _ => ?_
  cases hc : hasColon t with
  | true => simp
  | false => simpa using tagToken_eq_none_iff.mpr hc

def IsParse (tags : TagSet) (tokens : List String) : Except MalformedTag TagSet → Prop
  | .ok parsed =>
    (∀ t ∈ tokens, IsReadable t) ∧ ∃ pairs, AreTagsOf tokens pairs ∧ parsed = tags.putAll pairs
  | .error e => FirstFault tokens e

theorem FirstFault.cons {t : String} (ht : IsReadable t) (h : FirstFault tokens e) :
    FirstFault (t :: tokens) e := by
  obtain ⟨before, u, after, rfl, hbefore, hu⟩ := h
  exact ⟨t :: before, u, after, rfl, List.forall_mem_cons.mpr ⟨ht, hbefore⟩, hu⟩

theorem isParse_skip {t : String} {r : Except MalformedTag TagSet} (ht : hasColon t = false)
    (h : IsParse tags tokens r) : IsParse tags (t :: tokens) r := by
  have hreadable := isReadable_of_not_hasColon ht
  cases r with
  | error e => exact h.cons hreadable
  | ok parsed =>
    obtain ⟨hall, pairs, hpairs, hparsed⟩ := h
    refine ⟨List.forall_mem_cons.mpr ⟨hreadable, hall⟩, pairs, ?_, hparsed⟩
    rwa [AreTagsOf, List.filter_cons_of_neg (by simp [ht])]

theorem isParse_put {t : String} {r : Except MalformedTag TagSet}
    (ht : IsTag t key ("\"" ++ value ++ "\"")) (hreadable : IsReadable t)
    (h : IsParse (tags.put key value) tokens r) : IsParse tags (t :: tokens) r := by
  cases r with
  | error e => exact h.cons hreadable
  | ok parsed =>
    obtain ⟨hall, pairs, hpairs, rfl⟩ := h
    refine ⟨List.forall_mem_cons.mpr ⟨hreadable, hall⟩, (key, value) :: pairs, ?_, rfl⟩
    rw [AreTagsOf, List.filter_cons_of_pos ht.hasColon]
    exact .cons ht hpairs

theorem isParse_foldlM (tags : TagSet) (tokens : List String) :
    IsParse tags tokens ((tokens.filterMap fun t => tagToken t.toList).foldlM TagSet.addToken tags) := by
  -- `tags` holds what the tokens before were read as
  induction tokens generalizing tags with
  | nil => exact ⟨by simp, [], .nil, rfl⟩
  | cons t rest ih =>
    cases hcut : tagToken t.toList with
    | none =>
      simp only [List.filterMap_cons, hcut]
      exact isParse_skip (tagToken_eq_none_iff.mp hcut) (ih tags)
    | some cut =>
      obtain ⟨key, raw⟩ := cut
      have htag := tagToken_eq_some_iff.mp hcut
      simp only [List.filterMap_cons, hcut, List.foldlM_cons, TagSet.addToken]
      cases hvalue : unwrapQuotes raw with
      | none =>
        refine ⟨[], t, rest, rfl, by simp, htag, fun hquoted => ?_⟩
        obtain ⟨v, hv⟩ := isQuoted_iff.mp hquoted
        simp [hvalue] at hv
      | some v =>
        have hreadable := htag.isReadable_iff.mpr (isQuoted_iff.mpr ⟨v, hvalue⟩)
        exact isParse_put (ofList_of_unwrapQuotes hvalue ▸ htag) hreadable (ih _)

theorem isParse_parse (h : IsCutInto body tokens) : IsParse {} tokens (TagSet.parse body) := by
  rw [TagSet.parse, tagTokens_eq h]
  exact isParse_foldlM {} tokens

theorem FirstFault.exists_not_isReadable (h : FirstFault tokens e) :
    ∃ t ∈ tokens, ¬ IsReadable t := by
  obtain ⟨before, t, after, rfl, -, htag, hvalue⟩ := h
  exact ⟨t, by simp, fun hreadable => hvalue (htag.isReadable_iff.mp hreadable)⟩

theorem TagSet.parse_eq_ok_iff (h : IsCutInto body tokens) : parse body = .ok tags ↔
    (∀ t ∈ tokens, IsReadable t) ∧ ∃ pairs, AreTagsOf tokens pairs ∧ tags = putAll {} pairs := by
  have hparse := isParse_parse h
  constructor
  · intro hr
    rwa [hr] at hparse
  · rintro ⟨hall, pairs, hpairs, rfl⟩
    cases hr : parse body with
    | error e =>
      rw [hr] at hparse
      obtain ⟨t, ht, hnot⟩ := FirstFault.exists_not_isReadable hparse
      exact absurd (hall t ht) hnot
    | ok parsed =>
      rw [hr] at hparse
      obtain ⟨-, others, hothers, rfl⟩ := hparse
      rw [hpairs.unique hothers]

theorem TagSet.parse_congr {other : String} (h : IsCutInto body tokens) (h' : IsCutInto other ts)
    (hsame : ts.filter hasColon = tokens.filter hasColon) : parse other = parse body := by
  rw [parse, parse, tagTokens_eq h, tagTokens_eq h', filterMap_tagToken ts,
    hsame, ← filterMap_tagToken]

/-- An annotation can be read if each of its tokens can. Its tags are then the pairs of the tokens
with a colon, merged, and otherwise the first token that cannot be read is reported. Other tokens do
not count. -/
theorem TagSet.parse_exact (body : String) : ∃ tokens, (∀ ts, IsCutInto body ts ↔ ts = tokens) ∧
    ((∃ tags, parse body = .ok tags) ↔ ∀ t ∈ tokens, IsReadable t) ∧
    (∀ tags, parse body = .ok tags → ∃ pairs, AreTagsOf tokens pairs ∧ Merges pairs tags.entries) ∧
    (∀ e, parse body = .error e → FirstFault tokens e) ∧
    ∀ other ts, IsCutInto other ts → ts.filter hasColon = tokens.filter hasColon →
      parse other = parse body := by
  have hcut : IsCutInto body (spacedTokens body) := isCutInto_iff.mpr rfl
  have hfault : ∀ e, parse body = .error e → FirstFault (spacedTokens body) e := by
    intro e hr
    have hparse := isParse_parse hcut
    rwa [hr] at hparse
  refine ⟨spacedTokens body, fun _ => isCutInto_iff, ⟨?_, fun hall => ?_⟩, ?_, hfault,
    fun _ _ => parse_congr hcut⟩
  · rintro ⟨tags, hr⟩
    exact ((parse_eq_ok_iff hcut).mp hr).1
  · cases hr : parse body with
    | error e =>
      obtain ⟨t, ht, hnot⟩ := (hfault e hr).exists_not_isReadable
      exact absurd (hall t ht) hnot
    | ok tags => exact ⟨tags, rfl⟩
  · intro tags hr
    obtain ⟨-, pairs, hpairs, rfl⟩ := (parse_eq_ok_iff hcut).mp hr
    exact ⟨pairs, hpairs, merges_putAll pairs⟩

/-- Spaces on all sides and a token without a colon do not count, and a quote that is alone is the
first fault. -/
theorem TagSet.parse_exact_spaced :
    parse " a:\"1\"  flag b:\"\" a:\"2:\" " = parse "a:\"1\" b:\"\" a:\"2:\"" ∧
      parse "a:\"1\" b:\" c:2" = .error ⟨"b", "\""⟩ ∧
      FirstFault ["a:\"1\"", "b:\"", "c:2"] ⟨"b", "\""⟩ := by
  have hfault : parse "a:\"1\" b:\" c:2" = .error ⟨"b", "\""⟩ := by rfl
  obtain ⟨tokens, hcut, -, -, -, hother⟩ := parse_exact "a:\"1\" b:\"\" a:\"2:\""
  obtain ⟨others, hcut', -, -, herror, -⟩ := parse_exact "a:\"1\" b:\" c:2"
  obtain rfl : ["a:\"1\"", "b:\"\"", "a:\"2:\""] = tokens :=
    (hcut _).mp ⟨by decide +kernel, by decide, by decide +kernel⟩
  obtain rfl : ["a:\"1\"", "b:\"", "c:2"] = others :=
    (hcut' _).mp ⟨by decide +kernel, by decide, by decide +kernel⟩
  have hspaced : IsCutInto " a:\"1\"  flag b:\"\" a:\"2:\" "
      ["", "a:\"1\"", "", "flag", "b:\"\"", "a:\"2:\"", ""] :=
    ⟨by decide +kernel, by decide, by decide +kernel⟩
  exact ⟨hother _ _ hspaced (by decide +kernel), hfault, herror _ hfault⟩

end CommandGen
