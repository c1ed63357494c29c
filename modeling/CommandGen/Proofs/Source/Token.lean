import CommandGen.Proofs.Source.Word
import Mathlib.Data.List.TakeWhile

/-! The tokens of a text, by what stands at their places. -/
namespace CommandGen.Source

open Text

/-- A token that is read at its place in a text. -/
structure IsTokenOf (s : List Char) (tok : Token × Span) : Prop where
  notBlank : (s.drop tok.2.start).head?.any (!isBlank ·) = true
  isRead : ∃ w, tokenAt (s.drop tok.2.start) = some (tok.1, w) ∧ tok.2.stop = tok.2.start + w

/-- Tokens at their places, of which none starts before the end of one before it. -/
structure AreTokensOf (s : List Char) (toks : List (Token × Span)) : Prop where
  each : ∀ tok ∈ toks, IsTokenOf s tok
  inOrder : toks.Pairwise (·.2.stop ≤ ·.2.start)

variable {s : List Char} {known w : ℕ} {t : Token} {toks : List (Token × Span)}

/-- The induction is on the text that is left; `before` is what has been read of it. -/
theorem areTokensOf_tokensFrom (before : List Char)
    (h : tokensFrom before.length known s = some toks) :
    AreTokensOf (before ++ s) toks ∧ ∀ tok ∈ toks, before.length + known ≤ tok.2.start := by
  induction s generalizing before known toks with
  | nil =>
    obtain rfl : toks = [] := by cases known <;> simpa [tokensFrom, eq_comm] using h
    exact ⟨⟨by simp, .nil⟩, by simp⟩
  | cons c rest ih =>
    -- one more character has been read
    have hnext {known toks} (h : tokensFrom (before.length + 1) known rest = some toks) :
        AreTokensOf (before ++ c :: rest) toks ∧
          ∀ tok ∈ toks, before.length + (known + 1) ≤ tok.2.start := by
      have hlen : before.length + 1 = (before ++ [c]).length := by simp
      have hrest := ih (before ++ [c]) (hlen ▸ h)
      rw [List.append_assoc, ← hlen, Nat.add_assoc, Nat.add_comm 1] at hrest
      exact hrest
    cases known with
    | succ known => exact hnext h
    | zero =>
      rw [tokensFrom] at h
      cases htrivia : triviaWidth (c :: rest) with
      | some w =>
        rw [htrivia] at h
        obtain ⟨htoks, hstart⟩ := hnext h
        exact ⟨htoks, fun tok ht => Nat.le_trans (Nat.le_add_right _ _) (hstart tok ht)⟩
      | none =>
        rw [htrivia] at h
        cases hread : tokenAt (c :: rest) with
        | none => simp [hread] at h
        | some found =>
          obtain ⟨t, w⟩ := found
          simp only [hread, Option.map_eq_some_iff] at h
          obtain ⟨more, hmore, rfl⟩ := h
          obtain ⟨⟨heach, horder⟩, hstart⟩ := hnext hmore
          have hfirst :
              IsTokenOf (before ++ c :: rest) (t, ⟨before.length, before.length + w⟩) := by
            refine ⟨?_, w, by simpa using hread, rfl⟩
            have hblank : isBlank c = false := by
              refine Bool.eq_false_iff.mpr fun hc => ?_
              simp [triviaWidth, hc] at htrivia
            simp [hblank]
          refine ⟨⟨by simpa using ⟨hfirst, fun a b => heach (a, b)⟩,
            .cons (fun tok ht => ?_) horder⟩, ?_⟩
          · have hle := hstart tok ht
            show before.length + w ≤ tok.2.start
            omega
          · intro tok ht
            rcases List.mem_cons.mp ht with rfl | ht
            · exact Nat.le_refl _
            · have hle := hstart tok ht
              omega

theorem areTokensOf_tokens (h : tokens s = some toks) : AreTokensOf s toks := by
  cases s with
  | nil =>
    obtain rfl : toks = [] := by simpa [tokens, eq_comm] using h
    exact ⟨by simp, .nil⟩
  | cons c rest =>
    rw [tokens] at h
    split_ifs at h with hc
    · exact (areTokensOf_tokensFrom [c] h).1
    · exact (areTokensOf_tokensFrom [] h).1

theorem markAt_eq_some {c : Char} (h : markAt s = some c) : s.head? = some c := by
  unfold markAt at h
  split at h <;> simp_all

theorem punctuationAt_eq_some (h : punctuationAt s = some (t, w)) :
    ∃ c joined, s.head? = some c ∧ t = .mark c joined ∧ w = 1 := by
  unfold punctuationAt at h
  split at h
  · cases h
  · rename_i c hc
    split at h
    · dsimp only at h
      split_ifs at h
      cases h
      exact ⟨c, _, markAt_eq_some hc, rfl, rfl⟩
    · cases h
      exact ⟨c, _, markAt_eq_some hc, rfl, rfl⟩

theorem tokenAt_cases (h : tokenAt s = some (t, w)) : (∃ d, t = .doc d) ∨ (∃ l, t = .literal l) ∨
    (∃ c, s.head? = some c ∧ delimiterAt c = some t ∧ w = 1) ∨
    (∃ c joined, s.head? = some c ∧ t = .mark c joined ∧ w = 1) ∨ wordAt s = some (t, w) := by
  unfold tokenAt at h
  split at h
  · cases h
    exact .inl ⟨_, rfl⟩
  · split_ifs at h
    · cases h
      exact .inr (.inl ⟨_, rfl⟩)
    · split at h
      · rename_i hd
        obtain ⟨c, hc, hd⟩ := Option.bind_eq_some_iff.mp hd
        cases h
        exact .inr (.inr (.inl ⟨c, hc, hd, rfl⟩))
      · cases hl : literal? s with
        | some found =>
          rw [hl] at h
          cases h
          exact .inr (.inl ⟨_, rfl⟩)
        | none =>
          cases hp : punctuationAt s with
          | some found =>
            rw [hl, hp] at h
            cases h
            exact .inr (.inr (.inr (.inl (punctuationAt_eq_some hp))))
          | none =>
            rw [hl, hp] at h
            exact .inr (.inr (.inr (.inr h)))

theorem delimiterAt_eq_some {c : Char} (h : delimiterAt c = some t) :
    (∃ d, t = .opening d) ∨ t = .closing .bracket ∧ c = ']' ∨
      ∃ d, t = .closing d ∧ d ≠ .bracket := by
  unfold delimiterAt at h
  split at h <;> cases h <;> simp

theorem tokenAt_mark_cases {c : Char} {joined : Bool} (h : tokenAt s = some (.mark c joined, w)) :
    s.head? = some c ∧ w = 1 := by
  rcases tokenAt_cases h with ⟨_, ⟨⟩⟩ | ⟨_, ⟨⟩⟩ | ⟨_, -, hd, -⟩ | ⟨_, _, hs, ⟨⟩, hw⟩ | hword
  · simpa using delimiterAt_eq_some hd
  · exact ⟨hs, hw⟩
  · unfold wordAt at hword
    split_ifs at hword
    simp at hword

theorem tokenAt_closing_bracket (h : tokenAt s = some (.closing .bracket, w)) :
    s.head? = some ']' ∧ w = 1 := by
  rcases tokenAt_cases h with ⟨_, ⟨⟩⟩ | ⟨_, ⟨⟩⟩ | ⟨c, hs, hd, hw⟩ | ⟨_, _, -, ⟨⟩, -⟩ | hword
  · obtain rfl : c = ']' := by simpa using delimiterAt_eq_some hd
    exact ⟨hs, hw⟩
  · unfold wordAt at hword
    split_ifs at hword
    simp at hword

theorem plainIdentifierWidth_take (h : plainIdentifierWidth s = some w) :
    plainIdentifierWidth (s.take w) = some (s.take w).length := by
  cases s with
  | nil => cases h
  | cons c rest =>
    rw [plainIdentifierWidth] at h
    split_ifs at h with hstart
    obtain rfl := Option.some.inj h
    have htake : rest.take (rest.takeWhile isIdentifierContinue).length =
        rest.takeWhile isIdentifierContinue :=
      (List.prefix_iff_eq_take.mp (List.takeWhile_prefix _)).symm
    rw [Nat.add_comm, List.take_succ_cons, htake, plainIdentifierWidth,
      if_pos hstart, List.takeWhile_idem]
    simp [Nat.add_comm]

theorem identifierWidth_take (h : identifierWidth s = some w) :
    identifierWidth (s.take w) = some (s.take w).length := by
  by_cases hraw : ∃ name, s = 'r' :: '#' :: name
  · obtain ⟨name, rfl⟩ := hraw
    rw [identifierWidth] at h
    split at h
    · rename_i v hv
      split_ifs at h with hname
      obtain rfl := Option.some.inj h
      rw [List.take_succ_cons, List.take_succ_cons, identifierWidth, plainIdentifierWidth_take hv]
      dsimp only
      rw [List.take_length, if_neg hname]
      rfl
    · cases h
  · rw [identifierWidth.eq_2 _ fun name he => hraw ⟨name, he⟩] at h
    rw [identifierWidth.eq_2, plainIdentifierWidth_take h]
    intro name he
    obtain ⟨rest, hrest⟩ : s.take w <+: s := List.take_prefix w s
    exact hraw ⟨name ++ rest, by rw [← hrest, he]; rfl⟩

theorem isWord_of_tokenAt {text : String} (h : tokenAt s = some (.word text, w)) :
    isWord text.toList = true := by
  rcases tokenAt_cases h with ⟨_, ⟨⟩⟩ | ⟨_, ⟨⟩⟩ | ⟨_, -, hd, -⟩ | ⟨_, _, -, ⟨⟩, -⟩ | hword
  · simpa using delimiterAt_eq_some hd
  · unfold wordAt at hword
    split_ifs at hword with hstarts
    obtain ⟨v, hv, he⟩ := Option.map_eq_some_iff.mp hword
    obtain ⟨htext, rfl⟩ := Prod.mk.inj he
    obtain rfl := Token.word.inj htext
    rw [String.toList_ofList, isWord, identifierWidth_take hv]
    have hnone : literalStarts.any (·.isPrefixOf (s.take v)) = false := by
      simp only [Bool.not_eq_true, List.any_eq_false, List.isPrefixOf_iff_prefix] at hstarts ⊢
      exact fun p hp hpre => hstarts p hp (hpre.trans (List.take_prefix v s))
    simp [hnone]

end CommandGen.Source
