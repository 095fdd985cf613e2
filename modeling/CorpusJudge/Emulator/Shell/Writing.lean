import CorpusJudge.Emulator.Clock
import CorpusJudge.Emulator.Shell.Declaring
import CorpusJudge.Emulator.Shell.Format

/-!
# Writing

The commands of the extended dialect that write their arguments.
-/

namespace CorpusJudge.Shell

/-- The letters of the options of `echo` in an argument, if it consists of such letters. -/
def echoLetters? (word : Octets) : Option (List Char) :=
  match word with
  | '-' :: letter :: letters =>
    if (letter :: letters).all "neE".toList.contains then some (letter :: letters) else none
  | _ => none

/-- A text with its escapes replaced, up to one that ends it; the result tells whether there is one. -/
def echoUnescaped (done : Octets) : Nat → Octets → Octets × Bool
  | 0, _ => (done.reverse, false)
  | fuel + 1, text =>
    match text with
    | [] => (done.reverse, false)
    | '\\' :: '0' :: rest =>
      let digits := (rest.take 3).takeWhile Format.isOctal
      echoUnescaped (Format.octalByte ('0' :: digits) :: done) fuel (rest.drop digits.length)
    | '\\' :: character :: rest =>
      if Format.isOctal character then echoUnescaped (character :: '\\' :: done) fuel rest
      else
        let (bytes, rest, isEnd) := Format.escapeAt .extendedShell true (character :: rest)
        if isEnd then (done.reverse, true) else echoUnescaped (bytes.reverse ++ done) fuel rest
    | character :: rest => echoUnescaped (character :: done) fuel rest

/-- Write words. -/
def echoExtended (arguments : List Octets) : Act Unit := do
  Act.setStatus 0
  let options := arguments.takeWhile fun word => (echoLetters? word).isSome
  let letters := options.flatMap fun word => (echoLetters? word).getD []
  let text := [' '].intercalate (arguments.drop options.length)
  let byDefault := (← Act.shell).switches.contains "xpg_echo"
  let escapes := (letters.filter (· ≠ 'n')).getLast?
  let isEscaped := escapes = some 'e' || (byDefault && escapes ≠ some 'E')
  let (text, isCut) := if isEscaped then echoUnescaped [] (text.length + 1) text else (text, false)
  Act.say "echo" (if letters.contains 'n' || isCut then text else text ++ ['\n'])

/-- How `printf` is used. -/
def printfUsage : String := "printf [-v var] format [arguments]"

/-- Times as clocks show them here, for formats. -/
def clockFormat : Act (Octets → Option Int → Octets) := do
  let now := (← Act.files).clock
  let zone := match (← Act.shell).vars.value? "TZ" with
    | some text => TimeZone.ofText text
    | none => {}
  return fun format seconds =>
    (ClockTime.ofSeconds zone (seconds.getD (now / 1000000)) 0).text format

/-- Write operands in a format, or give the text to a variable. -/
def printfExtended (arguments : List Octets) : Act Unit := do
  let name := "printf"
  Act.setStatus 0
  let (target, words) : Option Octets × List Octets := match arguments with
    | ['-', 'v'] :: target :: rest => (some target, rest)
    | words => (none, words)
  let hasEnd := words.head? = some ['-', '-']
  let words := if hasEnd then words.tail else words
  match words with
  | [] =>
    Act.setStatus 2
    Act.writeNow (Bytes.ofString ("printf: usage: " ++ printfUsage ++ "\n"))
  | format :: operands =>
    match format with
    | '-' :: letter :: _ =>
      if !hasEnd then
        return ← Act.refuseOption name (String.ofList ['-', letter]) printfUsage
    | _ => pure ()
    let manner := { Format.Manner.extendedShell with clock := ← clockFormat }
    let result := Format.apply manner Quotation.guarded format operands
    for (target, count) in result.counts.reverse do
      if isName target then
        Act.update (·.assign (String.ofList target) (toString count).toList)
    let faults := result.faults.filter fun fault => !fault.isExcess
    for fault in faults do
      Act.writeNow ((← Act.shell).complaint (some name) fault.extendedMessage)
    if faults.any fun fault => !fault.isWarning then Act.setStatus 1
    match target with
    | none => Act.say name result.text
    | some target =>
      let setting? : Option Setting := match spotOf? target with
        | some (name, none) =>
          if isName name.toList then some ⟨name, none, false, .one result.text⟩ else none
        | some (name, some (.inr key)) => some ⟨name, some key, false, .one result.text⟩
        | _ => none
      match setting? with
      | none =>
        Act.refuse name 2 ("\x60" ++ String.ofList target ++ "': not a valid identifier")
      | some setting =>
        match (← Act.shell).set setting with
        | .ok changed => Act.update fun _ => changed
        | .error mishap =>
          Act.setStatus 1
          Act.writeNow ((← Act.shell).complaint none mishap.message)

end CorpusJudge.Shell
