import Mathlib.Data.List.Basic

/-! # Frames of a stream

A frame is a list of symbols that ends with the separator and has no other one. Every stream is a list of frames and
a remainder without a separator, in one way only (`frames_unique`), so what a reader has taken so far does not depend
on how the stream came in (`frames_append`). -/

namespace VentureOS.Framing

variable {α : Type}

/-- A frame ends with the only separator it has. -/
def IsFrame (separator : α) (frame : List α) : Prop := ∃ body, frame = body ++ [separator] ∧ separator ∉ body

variable {frame : List α}

theorem IsFrame.ne_nil {separator : α} (h : IsFrame separator frame) : frame ≠ [] := by
  obtain ⟨body, rfl, -⟩ := h
  simp

variable {read : List (List α)} {remainder : List α}

/-- A stream that goes on to be made of frames is behind by less than one of them. -/
theorem length_remainder_lt {separator : α} {next : List α} {bound : Nat}
    (hread : ∀ frame ∈ read, IsFrame separator frame) (hbound : ∀ frame ∈ read, frame.length ≤ bound)
    (hpos : 0 < bound) (hremainder : separator ∉ remainder) (h : remainder ++ next = read.flatten) :
    remainder.length < bound := by
  cases read with
  | nil =>
    rw [List.flatten_nil, List.append_eq_nil_iff] at h
    simpa [h.1] using hpos
  | cons frame read =>
    have hframe := hbound frame List.mem_cons_self
    obtain ⟨body, hbody, -⟩ := hread frame List.mem_cons_self
    by_contra hlong
    -- Else the first frame, with its separator, would be a part of the remainder.
    have hpre : frame <+: remainder := by
      have hall : frame <+: remainder ++ next := by
        rw [h, List.flatten_cons]
        exact List.prefix_append frame _
      exact List.prefix_of_prefix_length_le hall (List.prefix_append _ _) (by omega)
    exact hremainder (hpre.subset (by simp [hbody]))

variable [DecidableEq α] (separator : α)

/-- The first frame of a stream and what follows it: up to the first separator, if there is one. -/
def splitFrame : List α → Option (List α × List α)
  | [] => none
  | a :: rest =>
    if a = separator then some ([a], rest)
    else (splitFrame rest).map fun split => (a :: split.1, split.2)

/-- The frames of a stream, and the remainder. -/
def frames : List α → List (List α) × List α
  | [] => ([], [])
  | a :: rest =>
    if a = separator then ([a] :: (frames rest).1, (frames rest).2)
    else
      match (frames rest).1 with
      | [] => ([], a :: (frames rest).2)
      | frame :: others => ((a :: frame) :: others, (frames rest).2)

variable {separator}

variable {stream : List α}

theorem splitFrame_eq_none : splitFrame separator stream = none ↔ separator ∉ stream := by
  induction stream with
  | nil => simp [splitFrame]
  | cons a rest ih =>
    rw [splitFrame]
    split
    · rename_i heq
      simp [heq]
    · rename_i hne
      rw [Option.map_eq_none_iff, ih, List.mem_cons, not_or]
      exact (and_iff_right (Ne.symm hne)).symm

theorem splitFrame_append (h : IsFrame separator frame) (rest : List α) :
    splitFrame separator (frame ++ rest) = some (frame, rest) := by
  obtain ⟨body, rfl, hbody⟩ := h
  induction body with
  | nil => simp [splitFrame]
  | cons a body ih =>
    rw [List.mem_cons, not_or] at hbody
    rw [List.cons_append, List.cons_append, splitFrame, if_neg (Ne.symm hbody.1), ih hbody.2]
    rfl

/-- What is split off is a frame. -/
theorem splitFrame_eq_some {rest : List α} :
    splitFrame separator stream = some (frame, rest) ↔ stream = frame ++ rest ∧ IsFrame separator frame := by
  constructor
  · intro h
    induction stream generalizing frame rest with
    | nil => cases h
    | cons a stream ih =>
      rw [splitFrame] at h
      split at h
      · rename_i heq
        cases h
        exact ⟨rfl, [], by simp [heq], by simp⟩
      · rename_i hne
        rw [Option.map_eq_some_iff] at h
        obtain ⟨⟨frame', rest'⟩, hsplit, heq⟩ := h
        cases heq
        obtain ⟨rfl, body, rfl, hbody⟩ := ih hsplit
        refine ⟨rfl, a :: body, rfl, ?_⟩
        rw [List.mem_cons, not_or]
        exact ⟨Ne.symm hne, hbody⟩
  · rintro ⟨rfl, hframe⟩
    exact splitFrame_append hframe rest

theorem length_rest_lt {rest : List α} (h : splitFrame separator stream = some (frame, rest)) :
    rest.length < stream.length := by
  obtain ⟨rfl, hframe⟩ := splitFrame_eq_some.mp h
  have hpos := List.length_pos_of_ne_nil hframe.ne_nil
  rw [List.length_append]
  omega

/-- **A stream is its frames and a remainder without a separator.** -/
theorem frames_spec (stream : List α) : (frames separator stream).1.flatten ++ (frames separator stream).2 = stream
    ∧ (∀ frame ∈ (frames separator stream).1, IsFrame separator frame)
    ∧ separator ∉ (frames separator stream).2 := by
  induction stream with
  | nil => simp [frames]
  | cons a rest ih =>
    obtain ⟨hstream, hframes, hremainder⟩ := ih
    rw [frames]
    split
    · rename_i heq
      refine ⟨by simp [hstream], ?_, hremainder⟩
      rw [List.forall_mem_cons]
      exact ⟨⟨[], by simp [heq], by simp⟩, hframes⟩
    · rename_i hne
      -- The symbol goes to the first frame of the rest, if there is one, and else to the remainder.
      split
      · rename_i hnone
        rw [hnone] at hstream
        simp only [List.flatten_nil, List.nil_append] at hstream ⊢
        refine ⟨by rw [hstream], by simp, ?_⟩
        rw [List.mem_cons, not_or]
        exact ⟨Ne.symm hne, hremainder⟩
      · rename_i frame others hsome
        rw [hsome] at hstream hframes
        rw [List.forall_mem_cons] at hframes
        obtain ⟨⟨body, rfl, hbody⟩, hothers⟩ := hframes
        refine ⟨?_, ?_, hremainder⟩
        · rw [List.flatten_cons, List.append_assoc] at hstream ⊢
          rw [List.cons_append, hstream]
        · rw [List.forall_mem_cons]
          refine ⟨⟨a :: body, rfl, ?_⟩, hothers⟩
          rw [List.mem_cons, not_or]
          exact ⟨Ne.symm hne, hbody⟩

/-- A frame at the front of a stream is read first. -/
theorem frames_cons (h : IsFrame separator frame) (rest : List α) :
    frames separator (frame ++ rest) = (frame :: (frames separator rest).1, (frames separator rest).2) := by
  obtain ⟨body, rfl, hbody⟩ := h
  induction body with
  | nil => simp [frames]
  | cons a body ih =>
    rw [List.mem_cons, not_or] at hbody
    rw [List.cons_append, List.cons_append, frames, if_neg (Ne.symm hbody.1), ih hbody.2]

theorem frames_of_not_mem (h : separator ∉ remainder) : frames separator remainder = ([], remainder) := by
  induction remainder with
  | nil => rfl
  | cons a rest ih =>
    rw [List.mem_cons, not_or] at h
    rw [frames, if_neg (Ne.symm h.1), ih h.2]

/-- **There is one way only to read a stream as frames and a remainder.** -/
theorem frames_unique (hread : ∀ frame ∈ read, IsFrame separator frame)
    (hremainder : separator ∉ remainder) (h : read.flatten ++ remainder = stream) :
    frames separator stream = (read, remainder) := by
  subst h
  induction read with
  | nil => exact frames_of_not_mem hremainder
  | cons frame read ih =>
    rw [List.forall_mem_cons] at hread
    rw [List.flatten_cons, List.append_assoc, frames_cons hread.1, ih hread.2]

/-- **Frames can be read from a stream as it comes in**: from what comes first, and then from its remainder and what
comes next. -/
theorem frames_append (first next : List α) : frames separator (first ++ next)
    = ((frames separator first).1 ++ (frames separator ((frames separator first).2 ++ next)).1,
      (frames separator ((frames separator first).2 ++ next)).2) := by
  obtain ⟨hfirst, hframes, -⟩ := @frames_spec _ _ separator first
  obtain ⟨hnext, hframes', hremainder⟩ :=
    @frames_spec _ _ separator ((frames separator first).2 ++ next)
  refine frames_unique ?_ hremainder ?_
  · intro frame hmem
    rcases List.mem_append.mp hmem with hmem | hmem
    · exact hframes frame hmem
    · exact hframes' frame hmem
  · rw [List.flatten_append, List.append_assoc, hnext, ← List.append_assoc, hfirst]

theorem frames_flatten (h : ∀ frame ∈ read, IsFrame separator frame) :
    frames separator read.flatten = (read, []) :=
  frames_unique h (by simp) (by simp)

end VentureOS.Framing
