import CommandGen.Proofs.Tag.Grammar

/-! Annotations that are written from pairs: they are read as these pairs, and the tags of every
annotation can be written so. -/
namespace CommandGen

def tagText (p : String × String) : String := p.1 ++ ":\"" ++ p.2 ++ "\""

/-- One token for each pair, with single spaces between them. -/
def tagBody (pairs : List (String × String)) : String := " ".intercalate (pairs.map tagText)

/-- A key that no token is cut in. -/
structure IsPlainKey (key : String) : Prop where
  noSpace : ' ' ∉ key.toList
  noColon : ':' ∉ key.toList

/-- A pair that a token can hold. -/
structure IsPlainPair (p : String × String) : Prop where
  key : IsPlainKey p.1
  value : ' ' ∉ p.2.toList

instance (key : String) : Decidable (IsPlainKey key) :=
  decidable_of_iff (' ' ∉ key.toList ∧ ':' ∉ key.toList)
    ⟨fun ⟨hs, hc⟩ => ⟨hs, hc⟩, fun h => ⟨h.noSpace, h.noColon⟩⟩

instance (p : String × String) : Decidable (IsPlainPair p) :=
  decidable_of_iff (IsPlainKey p.1 ∧ ' ' ∉ p.2.toList)
    ⟨fun ⟨hk, hv⟩ => ⟨hk, hv⟩, fun h => ⟨h.key, h.value⟩⟩

variable {pairs : List (String × String)} {p : String × String} {tags : TagSet} {body : String}
  {tokens : List String}

theorem isTag_tagText (h : ':' ∉ p.1.toList) : IsTag (tagText p) p.1 ("\"" ++ p.2 ++ "\"") :=
  ⟨by simp [tagText, ← String.toList_inj], h⟩

theorem IsPlainPair.not_mem_tagText (h : IsPlainPair p) : ' ' ∉ (tagText p).toList := by
  simp [tagText, h.key.noSpace, h.value]

theorem isCutInto_tagBody (h : ∀ p ∈ pairs, IsPlainPair p) (hne : pairs ≠ []) :
    IsCutInto (tagBody pairs) (pairs.map tagText) where
  joined := rfl
  ne_nil := by simpa using hne
  noSpace t ht := by
    obtain ⟨p, hp, rfl⟩ := List.mem_map.mp ht
    exact (h p hp).not_mem_tagText

theorem areTagsOf_tagBody (h : ∀ p ∈ pairs, IsPlainPair p) :
    AreTagsOf (pairs.map tagText) pairs := by
  have hcolon : (pairs.map tagText).filter hasColon = pairs.map tagText := by
    refine List.filter_eq_self.mpr fun t ht => ?_
    obtain ⟨p, hp, rfl⟩ := List.mem_map.mp ht
    exact (isTag_tagText (h p hp).key.noColon).hasColon
  rw [AreTagsOf, hcolon, List.forall₂_map_left_iff, List.forall₂_same]
  exact fun p hp => isTag_tagText (h p hp).key.noColon

theorem parse_tagBody (h : ∀ p ∈ pairs, IsPlainPair p) :
    TagSet.parse (tagBody pairs) = .ok (TagSet.putAll {} pairs) := by
  by_cases hne : pairs = []
  · rw [hne]
    rfl
  · refine (TagSet.parse_eq_ok_iff (isCutInto_tagBody h hne)).mpr ⟨fun t ht => ?_, pairs,
      areTagsOf_tagBody h, rfl⟩
    obtain ⟨p, hp, rfl⟩ := List.mem_map.mp ht
    exact (isTag_tagText (h p hp).key.noColon).isReadable_iff.mpr (isQuoted_wrap _)

theorem isPlainPair_of_parse (h : TagSet.parse body = .ok tags) :
    ∀ p ∈ tags.entries, IsPlainPair p := by
  have hcut : IsCutInto body (spacedTokens body) := isCutInto_iff.mpr rfl
  obtain ⟨-, pairs, hpairs, rfl⟩ := (TagSet.parse_eq_ok_iff hcut).mp h
  intro p hp
  obtain ⟨t, ht, htag⟩ := hpairs.exists_tag (TagSet.mem_of_merges (TagSet.merges_putAll pairs) hp)
  have hspace := hcut.noSpace t ht
  simp only [← htag.joined, String.toList_append, List.mem_append, not_or] at hspace
  exact ⟨⟨hspace.1.1, htag.noColon⟩, hspace.2.1.2⟩

/-- Pairs that are written are read as they are, but for keys that stand more than once. What is
read from any annotation can be written, and is read again as it was. -/
theorem tagBody_reads_back :
    (∀ pairs, (∀ p ∈ pairs, IsPlainPair p) →
      ∃ tags, TagSet.parse (tagBody pairs) = .ok tags ∧ Merges pairs tags.entries) ∧
    ∀ body tags, TagSet.parse body = .ok tags → TagSet.parse (tagBody tags.entries) = .ok tags := by
  refine ⟨fun pairs h => ⟨_, parse_tagBody h, TagSet.merges_putAll pairs⟩, fun body tags h => ?_⟩
  rw [parse_tagBody (isPlainPair_of_parse h)]
  have hentries : (TagSet.putAll {} tags.entries).entries = tags.entries :=
    TagSet.entries_putAll (by simpa using tags.nodup)
  rw [TagSet.ext hentries]

/-- A key that stands twice, and a value with a colon, a quote and a line feed. -/
theorem tagBody_reads_back_repeated :
    let pairs := [("k", "a:\"\n"), ("l", ""), ("k", "b")]
    (∀ p ∈ pairs, IsPlainPair p) ∧ ∃ tags, TagSet.parse "k:\"a:\"\n\" l:\"\" k:\"b\"" = .ok tags ∧
      tags.entries.map (·.1) = ["k", "l"] ∧ tags.get? "k" = some "b" ∧
      TagSet.parse (tagBody tags.entries) = .ok tags := by
  intro pairs
  have hplain : ∀ p ∈ pairs, IsPlainPair p := by decide +kernel
  obtain ⟨hwritten, hread⟩ := tagBody_reads_back
  obtain ⟨tags, hparse, hmerges⟩ := hwritten pairs hplain
  have hbody : tagBody pairs = "k:\"a:\"\n\" l:\"\" k:\"b\"" := by decide +kernel
  have hkeys : tags.entries.map (·.1) = ["k", "l"] := hmerges.keys.trans (by decide +kernel)
  have hvalue : tags.get? "k" = some "b" := (hmerges.values "k").trans (by decide +kernel)
  exact ⟨hplain, tags, hbody ▸ hparse, hkeys, hvalue, hread _ _ hparse⟩

end CommandGen
