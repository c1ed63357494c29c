import CommandGen.Layout

/-! Writing steps one after another: what is written stays, and further steps follow it. -/
namespace CommandGen.Layout

variable {b : Layout}

theorem addAll_append (steps more : List Step) :
    b.addAll (steps ++ more) = (b.addAll steps).addAll more := by
  induction steps generalizing b with
  | nil => rfl
  | cons s rest ih => exact ih

@[simp] theorem text_write (b : Layout) (s : String) :
    (b.write s).text = b.text ++ (b.margin ++ s ++ "\n") := by
  simp [write, String.append_assoc]

@[simp] theorem text_deeper (b : Layout) : b.deeper.text = b.text := rfl

@[simp] theorem text_shallower (b : Layout) : b.shallower.text = b.text := rfl

mutual

theorem exists_text_add (b : Layout) : (s : Step) → ∃ t, (b.add s).text = b.text ++ t
  | .line s => ⟨_, text_write b s⟩
  | .blank => ⟨_, rfl⟩
  | .doc s => ⟨_, text_write b _⟩
  | .indent => ⟨"", by simp [add]⟩
  | .dedent => ⟨"", by simp [add]⟩
  | .block header close body => by
    obtain ⟨t, ht⟩ := exists_text_addAll (b.write header).deeper body
    rw [add, text_write, text_shallower, ht, text_deeper, text_write,
      String.append_assoc, String.append_assoc]
    exact ⟨_, rfl⟩

theorem exists_text_addAll (b : Layout) :
    (steps : List Step) → ∃ t, (b.addAll steps).text = b.text ++ t
  | [] => ⟨"", by simp [addAll]⟩
  | s :: rest => by
    obtain ⟨t, ht⟩ := exists_text_add b s
    obtain ⟨u, hu⟩ := exists_text_addAll (b.add s) rest
    exact ⟨t ++ u, by rw [addAll, hu, ht, String.append_assoc]⟩

end

end CommandGen.Layout
