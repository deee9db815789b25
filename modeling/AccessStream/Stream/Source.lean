import AccessStream.Stream.Frame

/-!
# Sources

A source hands out its bytes in pieces of any size, and it may be interrupted between them, which
means nothing more than that it has to be asked again. After its last piece it ends, or it fails for
good. `Source.next` reads one record: it takes pieces up to the first line feed and leaves what
follows.
-/

namespace AccessStream

/-- One answer of a source that is asked for more. -/
inductive Read where
  /-- At least one byte. -/
  | bytes (first : UInt8) (rest : Bytes)
  /-- Nothing; the source has to be asked again. -/
  | interrupted
  deriving DecidableEq, Repr

/-- The bytes of an answer. -/
def Read.toBytes : Read → Bytes
  | bytes first rest => first :: rest
  | interrupted => []

/-- The answer that hands out some bytes, if there are any. -/
def Read.ofBytes? : Bytes → Option Read
  | [] => none
  | first :: rest => some (bytes first rest)

/-- What a source is known to do next. -/
structure Source where
  /-- Its answers, in order. -/
  reads : List Read
  /-- Whether it fails for good after them, instead of ending. -/
  fails : Bool := false
  deriving DecidableEq, Repr

/-- What reading one record comes to. -/
inductive Reading where
  /-- A record was read to its end. -/
  | record (frame : Frame)
  /-- There is no further record. -/
  | ended
  /-- The source failed. -/
  | failed
  deriving DecidableEq, Repr

namespace Source

/-- A source that hands out all its bytes at once. -/
def ofBytes (bytes : Bytes) : Source := ⟨(Read.ofBytes? bytes).toList, false⟩

/-- The bytes that a source hands out. -/
def toBytes (source : Source) : Bytes := source.reads.flatMap Read.toBytes

/-- What the end of the input means for a record. -/
def atEnd (fails : Bool) (draft : Draft) : Reading :=
  if fails then .failed else if draft.started then .record draft.frame else .ended

/-- The rest of a record of which a part has arrived, and what the source does after it. -/
def nextFrom (limit : Nat) (fails : Bool) (draft : Draft) : List Read → Reading × Source
  | [] => (atEnd fails draft, ⟨[], fails⟩)
  | .interrupted :: reads => nextFrom limit fails draft reads
  | .bytes first rest :: reads =>
    match splitLine (first :: rest) with
    | (line, some after) =>
      (.record (draft.absorb limit line).frame, ⟨(Read.ofBytes? after).toList ++ reads, fails⟩)
    | (line, none) => nextFrom limit fails (draft.absorb limit line) reads

/-- The next record, and what the source does after it. -/
def next (limit : Nat) (source : Source) : Reading × Source :=
  nextFrom limit source.fails .empty source.reads

/-- A bound on the number of records to come: what is left to be handed out. -/
def weight : List Read → Nat
  | [] => 0
  | read :: reads => read.toBytes.length + 1 + weight reads

theorem weight_nextFrom_le (limit : Nat) (fails : Bool) (draft : Draft) (reads : List Read) :
    weight (nextFrom limit fails draft reads).2.reads ≤ weight reads := by
  fun_induction nextFrom limit fails draft reads with
  | case1 => simp
  | case2 _ reads ih => simp only [weight] at *; omega
  | case3 draft first rest reads line after split =>
    have size := congrArg List.length (splitLine_some split)
    cases after with
    | nil => simp [weight, Read.ofBytes?, Read.toBytes]
    | cons =>
      simp [weight, Read.ofBytes?, Read.toBytes] at size ⊢
      omega
  | case4 draft first rest reads line split ih =>
    simp only [weight] at *
    omega

theorem weight_nextFrom_lt {limit : Nat} {fails : Bool} {draft : Draft} {reads : List Read}
    {frame : Frame} (fresh : draft.started = false)
    (h : (nextFrom limit fails draft reads).1 = .record frame) :
    weight (nextFrom limit fails draft reads).2.reads < weight reads := by
  fun_induction nextFrom limit fails draft reads with
  | case1 => simp [atEnd, fresh] at h; split at h <;> simp at h
  | case2 draft reads ih =>
    have := ih fresh h
    simp only [weight] at *
    omega
  | case3 draft first rest reads line after split =>
    have size := congrArg List.length (splitLine_some split)
    cases after with
    | nil => simp [weight, Read.ofBytes?, Read.toBytes]
    | cons =>
      simp [weight, Read.ofBytes?, Read.toBytes] at size ⊢
      omega
  | case4 draft first rest reads line split ih =>
    have := weight_nextFrom_le limit fails (draft.absorb limit line) reads
    simp only [weight] at *
    omega

/-- Each record makes what is left smaller. -/
theorem weight_next_lt {limit : Nat} {source : Source} {frame : Frame}
    (h : (source.next limit).1 = .record frame) :
    weight (source.next limit).2.reads < weight source.reads :=
  weight_nextFrom_lt rfl h

end Source

end AccessStream
