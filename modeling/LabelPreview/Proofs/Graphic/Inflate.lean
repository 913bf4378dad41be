import LabelPreview.Graphic.Inflate
import Mathlib.Data.List.Basic
import Mathlib.Tactic.SplitIfs

/-!
# Inflating the front of a stream

A picture takes as many bytes of a stream as it needs, and reading stops when the window is full. What is read
then is the front of what the whole stream holds: the window decides where reading stops and nothing else.
-/

namespace LabelPreview.Inflate

/-! ## Readers and their windows -/

/-- How a reader that starts with the bytes `start` depends on its window. -/
structure Windowed (start : Array UInt8) (read : Nat → Except Stop Progress) : Prop where
  grows : ∀ {window q}, read window = .ok q → start.toList <+: q.out.toList
  full : ∀ {window out}, read window = .error (.enough out) → window ≤ out.size
  /-- A run that ends before its window is full goes the same way in any other window, until that is full. -/
  agrees : ∀ {window q}, read window = .ok q → q.out.size < window → ∀ other,
    read other = .ok q ∨ ∃ out, read other = .error (.enough out) ∧ out.toList <+: q.out.toList

namespace Windowed

variable {α : Type} {start more : Array UInt8} {read : Nat → Except Stop Progress}

theorem done (bits : Bits) : Windowed start fun _ => .ok ⟨start, bits⟩ where
  grows h := by cases h; exact List.prefix_rfl
  full h := by cases h
  agrees h _ _ := .inl h

theorem failed {out : Array UInt8} {e : Error} : Windowed start fun _ => .error (.failed out e) where
  grows h := by cases h
  full h := by cases h
  agrees h := by cases h

theorem mono (grown : start.toList <+: more.toList) (h : Windowed more read) : Windowed start read where
  grows hq := grown.trans (h.grows hq)
  full := h.full
  agrees := h.agrees

theorem push (b : UInt8) (h : Windowed (start.push b) read) : Windowed start read := by
  refine mono ?_ h
  rw [Array.toList_push]
  exact List.prefix_append _ _

theorem guard (h : Windowed start read) :
    Windowed start fun window => if window ≤ start.size then .error (.enough start) else read window where
  grows {window q} hq := by
    split_ifs at hq
    exact h.grows hq
  full {window out} hout := by
    split_ifs at hout with stop
    · cases hout
      exact stop
    · exact h.full hout
  agrees {window q} hq room other := by
    split_ifs at hq
    split_ifs with stop
    · exact .inr ⟨start, rfl, h.grows hq⟩
    · exact h.agrees hq room other

theorem bind {next : Progress → Nat → Except Stop Progress} (h : Windowed start read)
    (step : ∀ q, Windowed q.out (next q)) : Windowed start fun window => read window >>= fun q => next q window where
  grows {window q} hq := by
    cases first : read window with
    | error stop => rw [first] at hq; cases hq
    | ok middle =>
      rw [first] at hq
      exact (h.grows first).trans ((step middle).grows hq)
  full {window out} hout := by
    cases first : read window with
    | error stop =>
      rw [first] at hout
      cases hout
      exact h.full first
    | ok middle =>
      rw [first] at hout
      exact (step middle).full hout
  agrees {window q} hq room other := by
    cases first : read window with
    | error stop => rw [first] at hq; cases hq
    | ok middle =>
      rw [first] at hq
      have grown : middle.out.toList <+: q.out.toList := (step middle).grows hq
      -- bytes are only added, so the first part ended before its window was full
      have room' : middle.out.size < window := Nat.lt_of_le_of_lt grown.length_le room
      obtain same | ⟨out, stop, short⟩ := h.agrees first room' other
      · simp only [same]
        exact (step middle).agrees hq room other
      · simp only [stop]
        exact .inr ⟨out, rfl, short.trans grown⟩

theorem lift (part : Except Error α) {out : Array UInt8} {next : α → Nat → Except Stop Progress}
    (step : ∀ a, Windowed start (next a)) :
    Windowed start fun window => part.mapError (Stop.failed out) >>= fun a => next a window := by
  cases part with
  | error e => exact failed
  | ok a => exact step a

end Windowed

/-! ## Blocks -/

theorem prefix_copyBack (distance length : Nat) (out : Array UInt8) :
    out.toList <+: (copyBack distance length out).toList := by
  induction length generalizing out with
  | zero => exact List.prefix_rfl
  | succ n ih =>
    refine List.IsPrefix.trans ?_ (ih _)
    rw [Array.toList_push]
    exact List.prefix_append _ _

theorem windowed_readSymbols (literals distances : Code) (fuel : Nat) (p : Progress) :
    Windowed p.out fun window => readSymbols literals distances window fuel p := by
  induction fuel generalizing p with
  | zero => exact .failed
  | succ fuel ih =>
    unfold readSymbols
    apply Windowed.guard
    cases literals.read p.bits with
    | error e => exact .failed
    | ok read =>
      obtain ⟨symbol, bits⟩ := read
      by_cases literal : symbol < 256
      · simp only [if_pos literal]
        exact .push _ (ih ⟨p.out.push (UInt8.ofNat symbol), bits⟩)
      · by_cases final : symbol = 256
        · simp only [if_neg literal, if_pos final]
          exact .done bits
        · simp only [if_neg literal, if_neg final]
          cases takeFromTable copyLengths (symbol - 257) bits with
          | error e => exact .failed
          | ok read =>
            obtain ⟨length, bits⟩ := read
            simp only
            cases distances.read bits with
            | error e => exact .failed
            | ok read =>
              obtain ⟨symbol, bits⟩ := read
              simp only
              cases takeFromTable copyDistances symbol bits with
              | error e => exact .failed
              | ok read =>
                obtain ⟨distance, bits⟩ := read
                exact .mono (prefix_copyBack distance length p.out) (ih ⟨copyBack distance length p.out, bits⟩)

theorem windowed_readStored (n : Nat) (p : Progress) : Windowed p.out fun window => readStored window n p := by
  induction n generalizing p with
  | zero => exact .done p.bits
  | succ n ih =>
    unfold readStored
    apply Windowed.guard
    cases takeNumber 8 p.bits with
    | error e => exact .failed
    | ok read =>
      obtain ⟨b, bits⟩ := read
      exact .push _ (ih ⟨p.out.push (UInt8.ofNat b), bits⟩)

theorem windowed_readBlock (kind : Nat) (p : Progress) : Windowed p.out fun window => readBlock window kind p := by
  unfold readBlock
  by_cases stored : kind = 0
  · simp only [if_pos stored]
    refine .lift _ fun (n, bits) => .lift _ fun (check, bits) => ?_
    by_cases differ : n + check ≠ 65535
    · simp only [if_pos differ]
      exact .failed
    · simp only [if_neg differ]
      exact windowed_readStored n ⟨p.out, bits⟩
  · by_cases fixed : kind = 1
    · simp only [if_neg stored, if_pos fixed]
      refine .lift _ fun literals => .lift _ fun distances => ?_
      exact windowed_readSymbols literals distances _ p
    · by_cases described : kind = 2
      · simp only [if_neg stored, if_neg fixed, if_pos described]
        refine .lift _ fun (literals, distances, bits) => ?_
        exact windowed_readSymbols literals distances _ ⟨p.out, bits⟩
      · simp only [if_neg stored, if_neg fixed, if_neg described]
        exact .failed

theorem windowed_readBlocks (fuel : Nat) (p : Progress) : Windowed p.out fun window => readBlocks window fuel p := by
  induction fuel generalizing p with
  | zero => exact .failed
  | succ fuel ih =>
    unfold readBlocks
    refine .lift _ fun (last, bits) => .lift _ fun (kind, bits) => ?_
    refine .bind (windowed_readBlock kind ⟨p.out, bits⟩) fun q => ?_
    by_cases final : last = 1
    · simp only [if_pos final]
      exact .done q.bits
    · simp only [if_neg final]
      exact ih q

/-! ## Streams -/

theorem windowed_check {p : Progress} {check : Except Stop Progress}
    (settled : check = .ok p ∨ ∃ out e, check = .error (.failed out e)) :
    Windowed p.out fun window => if window ≤ p.out.size then .ok p else check where
  grows {window q} hq := by
    split_ifs at hq
    · cases hq
      exact List.prefix_rfl
    · obtain ok | ⟨out, e, stop⟩ := settled
      · cases ok.symm.trans hq
        exact List.prefix_rfl
      · cases stop.symm.trans hq
  full {window out} hout := by
    split_ifs at hout
    obtain ok | ⟨out', e, stop⟩ := settled
    · cases ok.symm.trans hout
    · cases stop.symm.trans hout
  agrees {window q} hq room other := by
    obtain ok | ⟨out, e, stop⟩ := settled
    · subst ok
      rw [ite_self] at hq ⊢
      exact .inl hq
    · split_ifs at hq with past
      · cases hq
        omega
      · cases stop.symm.trans hq

theorem windowed_readStream (bits : Bits) : Windowed #[] fun window => readStream window bits := by
  unfold readStream
  refine .lift _ fun (method, bits) => .lift _ fun (flags, bits) => ?_
  by_cases bad : (!goodHeader method flags) = true
  · simp only [if_pos bad]
    exact .failed
  · simp only [if_neg bad]
    refine .bind (windowed_readBlocks _ ⟨#[], bits⟩) fun p => windowed_check ?_
    cases takeChecksum (toByte p.bits) with
    | error e => exact .inr ⟨p.out, e, rfl⟩
    | ok sum =>
      by_cases right : sum = adler32 p.out
      · exact .inl (if_pos right)
      · exact .inr ⟨p.out, .corrupt, if_neg right⟩

/-- The bytes that a stream holds as a whole: what it inflates to when more than that is allowed. -/
def Inflates (data whole : List UInt8) : Prop := ∃ limit, whole.length < limit ∧ inflate limit data = .ok whole

theorem le_window (limit : Nat) : limit ≤ (limit + windowSize - 1) / windowSize * windowSize := by
  rw [windowSize]
  omega

theorem Inflates.exists_readStream {data whole : List UInt8} (h : Inflates data whole) :
    ∃ window p, whole.length < window ∧ readStream window (data.flatMap byteBits) = .ok p ∧
      p.out.toList = whole := by
  obtain ⟨limit, more, run⟩ := h
  have positive : limit ≠ 0 := by omega
  have room := le_window limit
  -- a list of `limit` bytes is longer than the whole
  have short {out : List UInt8} (front : out.take limit = whole) : out = whole := by
    have length := congrArg List.length front
    rw [List.length_take] at length
    rw [← front, List.take_of_length_le (by omega)]
  have long {out : Array UInt8} (enough : limit ≤ out.size) : out.toList.take limit ≠ whole := by
    intro front
    have length := congrArg List.length front
    rw [List.length_take, Array.length_toList] at length
    omega
  rw [inflate, if_neg positive] at run
  cases stream : readStream ((limit + windowSize - 1) / windowSize * windowSize) (data.flatMap byteBits) with
  | ok p =>
    simp only [stream, Except.ok.injEq] at run
    exact ⟨_, p, Nat.lt_of_lt_of_le more room, stream, short run⟩
  | error stop =>
    simp only [stream] at run
    cases stop with
    | enough out =>
      have full := (windowed_readStream _).full stream
      cases run
      exact absurd rfl (long (Nat.le_trans room full))
    | failed out e =>
      cases e with
      | corrupt => cases run
      | incomplete =>
        simp only at run
        split_ifs at run with enough
        cases run
        exact absurd rfl (long enough)

/-- Whatever front of a whole stream is asked for, inflating gives it. -/
theorem inflate_take {data whole : List UInt8} (h : Inflates data whole) {limit : Nat}
    (within : limit ≤ whole.length) : inflate limit data = .ok (whole.take limit) := by
  obtain ⟨window, p, room, stream, rfl⟩ := h.exists_readStream
  rw [inflate]
  split_ifs with none
  · rw [none, List.take_zero]
  · have agrees := (windowed_readStream _).agrees stream room
      ((limit + windowSize - 1) / windowSize * windowSize)
    obtain same | ⟨out, stop, short⟩ := agrees
    · simp only [same]
    · have full := (windowed_readStream _).full stop
      have enough : limit ≤ out.toList.length := Nat.le_trans (le_window limit) full
      simp only [stop]
      rw [List.prefix_iff_eq_take.mp short, List.take_take, Nat.min_eq_left enough]

end LabelPreview.Inflate
