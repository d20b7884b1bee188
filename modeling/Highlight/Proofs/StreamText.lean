import Highlight.Proofs.JsonText
import Highlight.Token.Json

/-!
# Reading written token streams

A token, what it holds and its labels are each written in one of two or three shapes, with nothing
but the shape to tell which: a text may be plain text, the content of a token or a label, and an
array may be a stream, a list of labels or a token given by its parts.  A written stream is read
back as it was, since at every place the shapes that are written there differ
(`Token.ofJson?_toJson`).

What the reader takes in another form nests at least as deeply there as it does when it is written
again (`Token.depth_le_of_ofJson?`), so that it can always be written and read again.
-/

namespace Highlight

open Json (depthOfItems depthOfFields)

/-! ## Written tokens -/

-- A token, its content and a stream are written by one recursion over all three.
mutual

/-- Tokens are written without numbers. -/
theorem Token.numberless_toJson : ∀ token : Token, token.toJson.Numberless
  | .plain _ => trivial
  | .matched _ none content => ⟨trivial, content.numberless_toJson, trivial⟩
  | .matched _ (some labels) content =>
    ⟨trivial, Json.numberless_ofLabels labels, content.numberless_toJson, trivial⟩

/-- What tokens hold is written without numbers. -/
theorem TokenContent.numberless_toJson : ∀ content : TokenContent, content.toJson.Numberless
  | .text _ => trivial
  | .nested tokens => Token.numberless_listToJson tokens

/-- Streams are written without numbers. -/
theorem Token.numberless_listToJson :
    ∀ tokens : List Token, Json.NumberlessItems (Token.listToJson tokens)
  | [] => trivial
  | token :: tokens => ⟨token.numberless_toJson, Token.numberless_listToJson tokens⟩

end

mutual

/-- A written token is read back: plain text from a string, and a recognized token from an object,
with its labels or without. -/
theorem Token.ofJson?_toJson : ∀ token : Token, Token.ofJson? token.toJson = some token
  | .plain _ => rfl
  | .matched kind none content => by
    have hcontent := content.ofJson?_toJson
    simp [Token.toJson, Token.ofJson?, Token.draftOfFields?, Token.Draft.empty, Token.Draft.finish?,
      Json.setOnce, Json.asString?, hcontent]
  | .matched kind (some labels) content => by
    have hlabels := Json.asOption?_ofLabels labels
    have hcontent := content.ofJson?_toJson
    simp [Token.toJson, Token.ofJson?, Token.draftOfFields?, Token.Draft.empty, Token.Draft.finish?,
      Json.setOnce, Json.asString?, hlabels, hcontent]

/-- What a token holds is read back: a text from a string, and a stream from an array. -/
theorem TokenContent.ofJson?_toJson :
    ∀ content : TokenContent, TokenContent.ofJson? content.toJson = some content
  | .text _ => rfl
  | .nested tokens => by
    have htokens := Token.listOfJson?_listToJson tokens
    rw [TokenContent.toJson, TokenContent.ofJson?, htokens, Option.map_some]

/-- A written stream is read back. -/
theorem Token.listOfJson?_listToJson :
    ∀ tokens : List Token, Token.listOfJson? (Token.listToJson tokens) = some tokens
  | [] => rfl
  | token :: tokens => by
    have htoken := token.ofJson?_toJson
    have htokens := Token.listOfJson?_listToJson tokens
    rw [Token.listToJson, Token.listOfJson?, htoken, htokens]
    rfl

end

/-! ## The depth of tokens -/

/-- A recognized token nests one level more than its labels and what it holds. -/
lemma Token.depth_toJson_matched_le_iff {kind : String} {labels : Option (Shorthand String)}
    {content : TokenContent} {d : ℕ} :
    (Token.matched kind labels content).toJson.depth ≤ d + 1 ↔
      (∀ texts, labels = some texts → (Json.ofLabels texts).depth ≤ d) ∧
        content.toJson.depth ≤ d := by
  cases labels with
  | none => simp [Token.toJson, Json.depth, depthOfFields]
  | some texts => simp [Token.toJson, Json.depth, depthOfFields]

/-- What a draft holds nests at most `d` arrays and objects when it is written. -/
structure Token.Draft.Within (draft : Token.Draft) (d : ℕ) : Prop where
  labels : ∀ texts, draft.labels = some (some texts) → (Json.ofLabels texts).depth ≤ d
  content : ∀ content, draft.content = some content → content.toJson.depth ≤ d

/-- The token of a draft nests one level more than what the draft holds. -/
lemma Token.Draft.Within.depth_le {draft : Token.Draft} {token : Token} {d : ℕ}
    (h : draft.Within d) (hfinish : draft.finish? = some token) : token.toJson.depth ≤ d + 1 := by
  obtain ⟨_ | kind, labels, _ | content⟩ := draft
  · cases hfinish
  · cases hfinish
  · cases hfinish
  · cases hfinish
    refine Token.depth_toJson_matched_le_iff.mpr ⟨fun texts htexts => ?_, h.content content rfl⟩
    have hgiven : labels = some (some texts) := by
      cases labels with
      | none => cases htexts
      | some given => exact congrArg some htexts
    exact h.labels texts hgiven

-- A token, its content, a stream and the fields of a token are read by one recursion over all four.
mutual

/-- A token nests no deeper than what it is read from, in whatever form. -/
theorem Token.depth_le_of_ofJson? : ∀ {value : Json} {token : Token},
    Token.ofJson? value = some token → token.toJson.depth ≤ value.depth
  | .str _, _, h => by
    cases h
    exact Nat.le_refl _
  | .obj fields, _, h => by
    obtain ⟨draft, hdraft, hfinish⟩ := Option.bind_eq_some_iff.mp h
    have hempty : Token.Draft.empty.Within (depthOfFields fields) := ⟨nofun, nofun⟩
    have hwithin := Token.within_of_draftOfFields? hdraft hempty (Nat.le_refl _)
    exact hwithin.depth_le hfinish
  | .arr [kind, labels, content], _, h => by
    obtain ⟨kindText, -, h⟩ := Option.bind_eq_some_iff.mp h
    obtain ⟨texts, htexts, h⟩ := Option.bind_eq_some_iff.mp h
    obtain ⟨held, hheld, heq⟩ := Option.bind_eq_some_iff.mp h
    cases heq
    have hcontent : held.toJson.depth ≤ content.depth := TokenContent.depth_le_of_ofJson? hheld
    have hparts : ∀ part ∈ [kind, labels, content],
        part.depth ≤ depthOfItems [kind, labels, content] :=
      Json.depthOfItems_le_iff.mp (Nat.le_refl _)
    refine Token.depth_toJson_matched_le_iff.mpr ⟨fun given hgiven => ?_, ?_⟩
    · subst hgiven
      have hread : labels.asLabels? = some given := Json.eq_some_of_asOption? htexts
      exact (Json.depth_ofLabels_le hread).trans (hparts labels (by simp))
    · exact hcontent.trans (hparts content (by simp))
  | .null, _, h | .bool _, _, h | .int _, _, h | .real _, _, h | .arr [], _, h | .arr [_], _, h
  | .arr [_, _], _, h | .arr (_ :: _ :: _ :: _ :: _), _, h => by cases h

/-- What a token holds nests no deeper than what it is read from. -/
theorem TokenContent.depth_le_of_ofJson? : ∀ {value : Json} {content : TokenContent},
    TokenContent.ofJson? value = some content → content.toJson.depth ≤ value.depth
  | .str _, _, h => by
    cases h
    exact Nat.le_refl _
  | .arr items, _, h => by
    obtain ⟨tokens, htokens, rfl⟩ := Option.map_eq_some_iff.mp h
    exact Nat.succ_le_succ (Token.depthOfItems_le_of_listOfJson? htokens)
  | .null, _, h | .bool _, _, h | .int _, _, h | .real _, _, h | .obj _, _, h => by cases h

/-- A stream nests no deeper than the items that it is read from. -/
theorem Token.depthOfItems_le_of_listOfJson? : ∀ {items : List Json} {tokens : List Token},
    Token.listOfJson? items = some tokens →
      depthOfItems (Token.listToJson tokens) ≤ depthOfItems items
  | [], _, h => by
    cases h
    exact Nat.le_refl _
  | item :: items, _, h => by
    obtain ⟨token, htoken, h⟩ := Option.bind_eq_some_iff.mp h
    obtain ⟨tokens, htokens, heq⟩ := Option.bind_eq_some_iff.mp h
    cases heq
    have hfirst : token.toJson.depth ≤ item.depth := Token.depth_le_of_ofJson? htoken
    have hothers := Token.depthOfItems_le_of_listOfJson? htokens
    exact max_le_max hfirst hothers

/-- Reading fields keeps a draft within the depth of the fields. -/
theorem Token.within_of_draftOfFields? : ∀ {fields : List (String × Json)}
    {draft draft' : Token.Draft} {d : ℕ}, Token.draftOfFields? draft fields = some draft' →
      draft.Within d → depthOfFields fields ≤ d → draft'.Within d
  | [], _, _, _, h, hdraft, _ => by
    cases h
    exact hdraft
  | (name, value) :: fields, draft, draft', d, h, hdraft, hd => by
    have hvalue : value.depth ≤ d := (max_le_iff.mp hd).1
    have hfields : depthOfFields fields ≤ d := (max_le_iff.mp hd).2
    rw [Token.draftOfFields?] at h
    split_ifs at h
    · obtain ⟨kind, -, h⟩ := Option.bind_eq_some_iff.mp h
      exact Token.within_of_draftOfFields? h ⟨hdraft.labels, hdraft.content⟩ hfields
    · obtain ⟨slot, hslot, h⟩ := Option.bind_eq_some_iff.mp h
      obtain ⟨labels, hlabels, rfl⟩ := Json.eq_some_of_setOnce hslot
      refine Token.within_of_draftOfFields? h ⟨fun texts heq => ?_, hdraft.content⟩ hfields
      cases heq
      have hread : value.asLabels? = some texts := Json.eq_some_of_asOption? hlabels
      exact (Json.depth_ofLabels_le hread).trans hvalue
    · obtain ⟨slot, hslot, h⟩ := Option.bind_eq_some_iff.mp h
      obtain ⟨content, hcontent, rfl⟩ := Json.eq_some_of_setOnce hslot
      refine Token.within_of_draftOfFields? h ⟨hdraft.labels, fun content' heq => ?_⟩ hfields
      cases heq
      exact (TokenContent.depth_le_of_ofJson? hcontent).trans hvalue
    · exact Token.within_of_draftOfFields? h hdraft hfields

end

/-! ## Texts of streams -/

namespace Token

/-- The text of a stream is read as the stream, unless it nests too deeply. -/
lemma parse?_render (tokens : List Token) :
    parse? (render tokens) =
      if (jsonOf tokens).depth ≤ Json.maxDepth then some tokens else none := by
  have hnumberless : (jsonOf tokens).Numberless := numberless_listToJson tokens
  rw [parse?, render, Json.parse?_render hnumberless]
  by_cases hdepth : (jsonOf tokens).depth ≤ Json.maxDepth
  · rw [if_pos hdepth, if_pos hdepth]
    exact listOfJson?_listToJson tokens
  · rw [if_neg hdepth, if_neg hdepth]

/-- What is read from a text can be written and read again. -/
lemma depth_le_of_parse? {text : String} {tokens : List Token} (h : parse? text = some tokens) :
    (jsonOf tokens).depth ≤ Json.maxDepth := by
  unfold parse? at h
  split at h
  · next items hitems =>
    have hread : depthOfItems (listToJson tokens) ≤ depthOfItems items :=
      depthOfItems_le_of_listOfJson? h
    have hwritten : (Json.arr items).depth ≤ Json.maxDepth := Json.depth_le_of_parse? hitems
    exact (Nat.succ_le_succ hread).trans hwritten
  · cases h

/-- Every stream is read back from its text as it was, with plain text, recognized tokens, their
contents and their labels each in the form that they had, or the text is refused because it nests
too deeply.  What is read from any text, in whatever form, is read back when it is written again. -/
theorem render_roundTrip :
    (∀ tokens : List Token, parse? (render tokens) =
      if (jsonOf tokens).depth ≤ Json.maxDepth then some tokens else none) ∧
    (∀ (text : String) (tokens : List Token), parse? text = some tokens →
      parse? (render tokens) = some tokens) := by
  refine ⟨parse?_render, fun text tokens h => ?_⟩
  have hdepth : (jsonOf tokens).depth ≤ Json.maxDepth := depth_le_of_parse? h
  rw [parse?_render, if_pos hdepth]

/-- Tokens that were given by their parts, with no labels for `null` or among other fields are read
back from the one form that is written: an array of one label stays apart from the label alone, and
an empty stream from the empty text. -/
theorem render_roundTrip_of_other_forms :
    let tokens : List Token :=
      [matched "tag" (some (.list ["a"])) (.nested [.plain "<", matched "name" none (.nested [])]),
        matched "end" (some (.single "b")) (.text ""), .plain ""]
    parse? "[[\"tag\", [\"a\"], [\"<\", [\"name\", null, []]]],
      \x7b\"content\": \"\", \"at\": [1], \"alias\": \"b\", \"type\": \"end\"\x7d, \"\"]" =
        some tokens ∧
      parse? (render tokens) = some tokens := by
  dsimp only
  refine ⟨?read, render_roundTrip.2 _ _ ?read⟩
  case read => decide +kernel

end Token

end Highlight
