import CorpusJudge.Emulator.Tool.Tally
import CorpusJudge.Emulator.Tool.Edit.Editor
import CorpusJudge.Emulator.Tool.Search
import CorpusJudge.Emulator.Tool.Options
import CorpusJudge.Emulator.Tool.Record.Run

/-!
# Filters

A filter is what a tool does with the bytes it reads.  It is told what happens to its sources, one
after the other, and answers with jobs.
-/

namespace CorpusJudge

/-- What a filter is told: that a source begins, a piece of it, that it ends, that there are no more
sources, that it may go on, or an answer. -/
inductive Notice where
  | opened (name : Octets)
  | piece (piece : Piece)
  | closed
  | ended
  | proceed
  | answer (answer : Reply)

/-- Passing on the beginning of each source, so many bytes of it or lines that end in a mark. -/
structure Beginning where
  mark : Option UInt8
  count : Nat
  left : Nat
  hasTitles : Bool
  isFirst : Bool := true

/-- Work on sources one after the other: what is done when one begins, given how many there were before
it, and what is done with its content; and the source that the work is at. -/
structure SourceWork where
  opening : Nat → Octets → List Job := fun _ _ => []
  closing : Octets → Bytes → List Job
  count : Nat := 0
  name : Octets := []
  pieces : List Bytes := []

/-- A worker on lines. -/
inductive Worker where
  /-- Turn each line into something, in view of its number and of whether its end is marked. -/
  | each (number : Nat) (act : Nat → Octets → Bool → Octets)
  | distinct (distinct : Distinct)
  | numbering (plan : NumberPlan) (state : Numbering)
  | display (display : Display)
  | search (search : LineSearch)
  | edit (editor : Edit.Editor)

namespace Worker

/-- What the worker waits for. -/
def want : Worker → Want
  | each _ _ => .line
  | distinct _ => .line
  | numbering _ _ => .line
  | display _ => .line
  | search state => state.want
  | edit editor => editor.want

/-- Take in a line. -/
def line (worker : Worker) (text : Octets) (isWhole : Bool) : Worker × Outgoing :=
  let saying (worker : Worker) (output : Octets) : Worker × Outgoing :=
    (worker, ({} : Outgoing).say output)
  match worker with
  | each number act => saying (each (number + 1) act) (act (number + 1) text isWhole)
  | distinct state =>
    let (state, output) := state.line text
    saying (distinct state) output
  | numbering plan state =>
    let (state, output) := plan.line state text
    saying (numbering plan state) output
  | display state =>
    let (state, output) := state.line text isWhole
    saying (display state) output
  | search state =>
    let (state, output) := state.line text
    saying (search state) output
  | edit editor =>
    let (editor, outgoing) := editor.line text isWhole
    (edit editor, outgoing)

/-- Learn whether there is another line. -/
def told (worker : Worker) (hasMore : Bool) : Worker × Outgoing :=
  match worker with
  | edit editor =>
    let (editor, outgoing) := editor.told hasMore
    (edit editor, outgoing)
  | other => (other, {})

/-- Learn an answer, or go on. -/
def answered (worker : Worker) (output : Octets) : Worker × Outgoing :=
  match worker with
  | edit editor =>
    let (editor, outgoing) := editor.answered output
    (edit editor, outgoing)
  | other => (other, {})

/-- Start with a source. -/
def opened (worker : Worker) (name : Octets) : Worker :=
  match worker with
  | search state => search (state.opened name)
  | edit editor => edit (editor.opened name)
  | other => other

/-- Finish with a source. -/
def closed (worker : Worker) : Worker × List Job :=
  match worker with
  | search state =>
    let (state, jobs) := state.closed
    (search state, jobs)
  | edit editor =>
    let (editor, jobs) := editor.closed
    (edit editor, jobs)
  | other => (other, [])

/-- Whether each source is taken for itself. -/
def isSeparate : Worker → Bool
  | edit editor => editor.plan.isSeparate
  | _ => false

/-- The jobs at the end. -/
def finished : Worker → List Job
  | distinct state => [.emit 1 (Bytes.ofOctets state.finished)]
  | search state => state.finished
  | _ => []

end Worker

/-- What a tool does with the bytes it reads. -/
inductive Filter where
  /-- Pass everything on. -/
  | copy
  /-- Pass on the beginning. -/
  | leading (beginning : Beginning)
  /-- Replace or drop bytes one by one, and join runs of some of them. -/
  | translate (table : UInt8 → Option UInt8) (squeezed : UInt8 → Bool) (last : Option UInt8)
  /-- Count. -/
  | count (counting : Counting)
  /-- Work line by line; `held` is the beginning of a line, or lines that nobody has asked for yet. -/
  | lines (mark : Char) (held : Octets) (worker : Worker)
  /-- Copy in blocks. -/
  | blocks (state : BlockCopy) (finish : BlockCopy → List Job)
  /-- Say one thing after the other, from an index on, so many of them or without end. -/
  | generate (item : Nat → Octets) (index : Nat) (left : Option Nat)
  /-- Carry out a program for records. -/
  | records (session : Record.Session)
  /-- Keep each source until it is read. -/
  | bySource (work : SourceWork)
  /-- Keep everything, by source, until all sources are read or there is enough. -/
  | gather (held : List (Octets × List Bytes)) (left : Option Nat)
      (finish : List (Octets × Bytes) → List Job)

namespace Filter

/-- The lines up to a number of marks, behind the bytes that stand in reverse, and how many marks are
still to come. -/
def takeLines (mark : UInt8) (reversed : Bytes) : Nat → Bytes → Bytes × Nat
  | 0, _ => (reversed.reverse, 0)
  | more + 1, [] => (reversed.reverse, more + 1)
  | more + 1, byte :: rest =>
    takeLines mark (byte :: reversed) (if byte = mark then more else more + 1) rest
termination_by _ bytes => bytes.length

/-- Replace or drop bytes one by one and join runs, starting behind a byte. -/
def translated (table : UInt8 → Option UInt8) (squeezed : UInt8 → Bool) (last : Option UInt8)
    (bytes : Bytes) : Bytes × Option UInt8 :=
  let step (state : Bytes × Option UInt8) (byte : UInt8) : Bytes × Option UInt8 :=
    match table byte with
    | none => state
    | some image =>
      if state.2 = some image && squeezed image then state
      else (image :: state.1, some image)
  let (reversed, last) := bytes.foldl step ([], last)
  (reversed.reverse, last)

/-- The title of a source. -/
def titleOf (isFirst : Bool) (name : Octets) : Octets :=
  let shown := if name.isEmpty then "standard input".toList else name
  (if isFirst then [] else ['\n']) ++ "==> ".toList ++ shown ++ " <==\n".toList

/-- Let a worker on lines go on as far as there is something for it.  At the end of its source the
last line may lack its mark, and at the end of all sources there is nothing more. -/
def workOn (mark : Char) (isAtEnd isOver : Bool) (outgoing : Outgoing) :
    Nat → Octets → Worker → Outgoing × Filter
  | 0, held, worker => (outgoing.add .proceed, lines mark held worker)
  | fuel + 1, held, worker =>
    let join (more : Outgoing) : Outgoing :=
      if more.jobs.isEmpty then { outgoing with pieces := more.pieces ++ outgoing.pieces }
      else outgoing.addAll more.toList
    match worker.want with
    | .line =>
      match cutLine? mark held with
      | some (line, rest) =>
        let (worker, more) := worker.line line true
        workOn mark isAtEnd isOver (join more) fuel rest worker
      | none =>
        if isAtEnd && !held.isEmpty then
          let (worker, more) := worker.line held false
          workOn mark isAtEnd isOver (join more) fuel [] worker
        else (outgoing, lines mark held worker)
    | .lookahead =>
      if !held.isEmpty || isOver || (isAtEnd && worker.isSeparate) then
        let (worker, more) := worker.told !held.isEmpty
        workOn mark isAtEnd isOver (join more) fuel held worker
      else (outgoing, lines mark held worker)
    | _ => (outgoing, lines mark held worker)

/-- How often a worker on lines can be asked to go on without a break. -/
def stride (held : Octets) : Nat := 2 * held.length + 8

/-- What follows the work on lines: giving back what is not used if the worker wants no more. -/
def afterWork (result : Outgoing × Filter) : List Job × Filter :=
  let (outgoing, filter) := result
  match filter with
  | lines _ held worker =>
    if worker.want = .nothing then
      ((outgoing.addAll [.unread none held.length, .enough]).toList, filter)
    else (outgoing.toList, filter)
  | _ => (outgoing.toList, filter)

/-- How many bytes are read at a time at most. -/
def mostAtOnce : Nat := 65536

/-- How many things are said at once. -/
def generatedAtOnce : Nat := 512

/-- What a filter does when it is told something. -/
def respond (filter : Filter) (notice : Notice) : List Job × Filter :=
  match filter, notice with
  | copy, .piece piece => ([.put 1 piece], copy)
  | leading beginning, .opened name =>
    (if beginning.hasTitles then [.emit 1 (Bytes.ofOctets (titleOf beginning.isFirst name))] else [],
      leading { beginning with left := beginning.count, isFirst := false })
  | leading beginning, .piece piece =>
    match beginning.mark with
    | some mark =>
      let (taken, left) := takeLines mark [] beginning.left piece.bytes
      let unused := if left = 0 then piece.size - taken.length else 0
      ([.emit 1 taken] ++ (if unused = 0 then [] else [.unread none unused]),
        leading { beginning with left := left })
    | none =>
      let taken := piece.take beginning.left
      ([.emit 1 taken.bytes], leading { beginning with left := beginning.left - taken.size })
  | translate table squeezed last, .piece piece =>
    let (image, last) := translated table squeezed last piece.bytes
    ([.emit 1 image], translate table squeezed last)
  | count counting, .opened name => ([], count (counting.opened name))
  | count counting, .piece piece => ([], count (counting.add piece))
  | count counting, .closed =>
    let (counting, row) := counting.closed
    ([.emit 1 (Bytes.ofOctets row)], count counting)
  | count counting, .ended => ([.emit 1 (Bytes.ofOctets counting.finished)], count counting)
  | lines mark held worker, .opened name => ([], lines mark held (worker.opened name))
  | lines mark held worker, .piece piece =>
    let held := held ++ Bytes.octets piece.bytes
    afterWork (workOn mark false false {} (stride held) held worker)
  | lines mark held worker, .closed =>
    let (outgoing, filter) := workOn mark true false {} (stride held) held worker
    match filter with
    | lines mark held worker =>
      let held := if worker.want = .nextSource then [] else held
      let (worker, jobs) := worker.closed
      afterWork (outgoing.addAll jobs, lines mark held worker)
    | other => (outgoing.toList, other)
  | lines mark held worker, .ended =>
    let (outgoing, filter) := workOn mark true true {} (stride held) held worker
    match filter with
    | lines _ _ worker => ((outgoing.addAll worker.finished).toList, filter)
    | _ => (outgoing.toList, filter)
  | lines mark held worker, .proceed =>
    let (worker, outgoing) := worker.answered []
    afterWork (workOn mark false false outgoing (stride held) held worker)
  | lines mark held worker, .answer (.text output) =>
    let (worker, outgoing) := worker.answered (Bytes.octets (output.getD []))
    afterWork (workOn mark false false outgoing (stride held) held worker)
  | generate item index left, .proceed =>
    let size := min generatedAtOnce (left.getD generatedAtOnce)
    let text := (List.range size).flatMap fun offset => item (index + offset)
    let left := left.map (· - size)
    ([.emit 1 (Bytes.ofOctets text)] ++ (if left = some 0 then [] else [.proceed]),
      generate item (index + size) left)
  | blocks state finish, .piece piece =>
    let (state, output) := state.add mostAtOnce piece.bytes
    ([.emit 1 output], blocks state finish)
  | blocks state finish, .ended =>
    let (state, output) := state.finished
    (.emit 1 output :: finish state, blocks state finish)
  | records session, .proceed =>
    let (jobs, session) := session.resumed
    (jobs, records session)
  | records session, .answer reply =>
    let (jobs, session) := session.answered reply
    (jobs, records session)
  | bySource work, .opened name =>
    (work.opening work.count name,
      bySource { work with count := work.count + 1, name := name, pieces := [] })
  | bySource work, .piece piece =>
    ([], bySource { work with pieces := piece.bytes :: work.pieces })
  | bySource work, .closed =>
    (work.closing work.name work.pieces.reverse.flatten, bySource { work with pieces := [] })
  | gather held left finish, .opened name => ([], gather ((name, []) :: held) left finish)
  | gather held left finish, .piece piece =>
    let left := left.map (· - piece.size)
    match held with
    | (name, pieces) :: others => ([], gather ((name, piece.bytes :: pieces) :: others) left finish)
    | [] => ([], gather [([], [piece.bytes])] left finish)
  | gather held left finish, .ended =>
    (finish (held.reverse.map fun (name, pieces) => (name, pieces.reverse.flatten)),
      gather held left finish)
  | other, _ => ([], other)

/-- What a filter does when its source cannot be read.  Most finish with it as far as it goes. -/
def respondUnreadable (filter : Filter) : List Job × Filter :=
  match filter with
  | bySource work => ([], bySource work)
  | other => other.respond .closed

/-- Whether a filter has no use for more of the source it is at. -/
def isSated : Filter → Bool
  | leading beginning => beginning.left = 0
  | blocks state _ => state.isOver
  | gather _ left _ => left = some 0
  | lines _ _ worker => worker.want = .nextSource || worker.want = .nothing
  | _ => false

/-- How many bytes a filter asks for at a time: no more than it can have use for. -/
def request (filter : Filter) : Nat :=
  match filter with
  | leading beginning => if beginning.mark.isSome then 1024 else min beginning.left mostAtOnce
  | blocks state _ => state.request mostAtOnce
  | gather _ left _ => min (left.getD mostAtOnce) mostAtOnce
  | _ => mostAtOnce

end Filter

/-- How a tool complains about a file: what stands in front of the reason that it cannot be opened, and
in front of the reason that it cannot be read. -/
structure Wording where
  opening : Octets → Octets := Quoting.asName
  reading : Octets → Octets := Quoting.asName

namespace Wording

/-- Names as they are given. -/
def raw : Wording where
  opening := id
  reading := id

/-- Names in quotes, with what was to be done. -/
def quotedOpen : Wording where
  opening name := "cannot open ".toList ++ Quoting.always name ++ " for reading".toList
  reading name := "error reading ".toList ++ Quoting.always name

/-- Names behind what cannot be done. -/
def cannotRead : Wording where
  opening name := "cannot read: ".toList ++ Quoting.asName name
  reading name := "read failed: ".toList ++ Quoting.asName name

/-- Names behind what cannot be done, as they are given. -/
def cantRead : Wording where
  opening name := "can't read ".toList ++ name
  reading name := "read error on ".toList ++ name

/-- Names behind what cannot be done, and alone where only a part of it can be done. -/
def cannotOpen : Wording where
  opening name := "cannot open ".toList ++ name
  reading := id

end Wording

/-- A tool at work: what it has kept back of its output, last piece first, and how much that is; and
the programs that read what it writes under a descriptor.  A direct one keeps nothing back, and a hasty
one complains before it writes what it has kept back. -/
structure Tool where
  name : String
  wording : Wording := {}
  jobs : List Job
  filter : Filter := .copy
  outputs : List Nat := [1]
  isDirect : Bool := false
  isHasty : Bool := false
  kept : List Bytes := []
  keptSize : Nat := 0
  readers : List (Nat × Nat) := []
  status : Nat := 0
  failure : Nat := 1

end CorpusJudge
