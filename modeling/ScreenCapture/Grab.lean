import ScreenCapture.Session

namespace ScreenCapture.Grab

open Text

def defaultFrames : Nat := 5

def directory : String := "grab-output"

structure Command where
  target : CaptureTarget
  frames : Nat
  options : CaptureOptions

def parseTarget (text : String) : Except Cause CaptureTarget :=
  (CaptureTarget.parse text).mapError fun error ↦ error.toCause.within "invalid capture target"

def parseFrames (text : String) : Except Cause Nat :=
  (Numeral.readNat 0xffffffffffffffff text.toList).mapError fun fault ↦
    (Cause.message fault.message).within s!"invalid frame count '{text}'"

def parseOption (options : CaptureOptions) (text : String) : Except Cause CaptureOptions :=
  match cut? (· = '=') text.toList with
  | some (name, value) =>
    (options.set (String.ofList name) (String.ofList value)).mapError CaptureError.toCause
  | none => .error (.message s!"expected option=value, got '{text}'")

/-- The target, the number of frames and then options; the first two have defaults. -/
def Command.parse (args : List String) : Except Cause Command := do
  let target ← parseTarget (args.head?.getD "desktop")
  let frames ← args[1]?.elim (.ok defaultFrames) parseFrames
  let options ← (args.drop 2).foldlM parseOption .standard
  return { target, frames, options }

/-- What a command needs besides a host: a place for its output and for its files. A failure of the
system comes with its text. -/
structure Shell (m : Type → Type) where
  print : String → m Unit
  makeDirectory : String → m (Except String Unit)
  writeFile : String → ByteArray → m (Except String Unit)

def padded (width n : Nat) : String :=
  let digits := (toString n).toList
  String.ofList (List.replicate (width - digits.length) '0' ++ digits)

def millis (micros : Int) : String :=
  s!"{micros / 1000}.{padded 3 (micros % 1000).toNat}"

def fileName (sequence : Nat) : String := s!"{directory}/frame-{padded 4 sequence}.bmp"

def openedLine (target : CaptureTarget) (micros : Int) (stream : StreamInfo) : String :=
  s!"Opened {target} in {millis micros} ms: {stream.width}x{stream.height} at " ++
    s!"{stream.frameRate} fps, {stream.bitRate} bit/s\n"

def frameLine (frame : Frame) : String :=
  s!"frame {frame.sequence} pts={frame.pts}us {frame.size} bytes in {millis frame.duration} ms" ++
    s!" -> {fileName frame.sequence}\n"

section

variable {m : Type → Type} [Monad m] {ω : Type} (shell : Shell m) (h : Host ω)
  (perform : {α : Type} → StateM ω α → m α)

def orElse (context : String) (outcome : Except String Unit) : Except Cause Unit :=
  outcome.mapError fun text ↦ (Cause.message text).within context

/-- Reads a frame, trying again a millisecond later while it is not ready. -/
def nextFrame (session : Session) (patience : Nat) :
    Nat → m (Except (Failure Cause) Frame × Session)
  | 0 => return (.error unread, session)
  | retries + 1 => do
    match ← perform (session.read h patience) with
    | (.frame frame, session) => return (.ok frame, session)
    | (.failed error, session) =>
      if error.isRetryable then
        perform (h.sleep 1000)
        nextFrame session patience retries
      else return (.error (.error (error.toCause.within "failed to read frame")), session)
    | (.overflow, session) => return (.error .overflow, session)
    | (.unfinished, session) => return (.error unread, session)
where
  unread : Failure Cause := .error (CaptureError.wouldBlock.toCause.within "failed to read frame")

def writeFrames (session : Session) (patience : Nat) :
    Nat → m (Except (Failure Cause) Unit × Session)
  | 0 => return (.ok (), session)
  | frames + 1 => do
    match ← nextFrame h perform session patience patience with
    | (.error failure, session) => return (.error failure, session)
    | (.ok frame, session) =>
      let file := fileName frame.sequence
      match orElse s!"failed to write {file}" (← shell.writeFile file frame.data) with
      | .error cause => return (.error (.error cause), session)
      | .ok () =>
        shell.print (frameLine frame)
        writeFrames session patience frames

/-- Carries out a command. The session is closed whatever comes of it. -/
def execute (patience : Nat) (command : Command) : m (Except (Failure Cause) Unit) := do
  let begun ← perform h.timer
  match ← perform (Session.start h command.options command.target).run with
  | .error .overflow => return .error .overflow
  | .error (.error error) =>
    return .error
      (.error (error.toCause.within s!"failed to open capture session for {command.target}"))
  | .ok session =>
    let opened ← perform h.timer
    shell.print (openedLine command.target (opened - begun) session.stream)
    let (outcome, session) ←
      match orElse s!"failed to create {directory}" (← shell.makeDirectory directory) with
      | .error cause => pure (.error (.error cause), session)
      | .ok () => writeFrames shell h perform session patience command.frames
    let _ ← perform (session.close h)
    return outcome

def run (patience : Nat) (args : List String) : m (Except (Failure Cause) Unit) :=
  match Command.parse args with
  | .error cause => return .error (.error cause)
  | .ok command => execute shell h perform patience command

end

def indented (first rest text : String) : String :=
  first ++ ("\n" ++ rest).intercalate (text.splitOn "\n")

def numbered (i : Nat) : String :=
  String.ofList (List.replicate (5 - (toString i).length) ' ') ++ s!"{i}: "

def causeLines : List String → String
  | [] => ""
  | [text] => "\n\nCaused by:\n" ++ indented "    " "    " text
  | texts => "\n\nCaused by:" ++ String.join
      (texts.mapIdx fun i text ↦ "\n" ++ indented (numbered i) "       " text)

def report (cause : Cause) : String := s!"Error: {cause.text}{causeLines cause.sources}\n"

def verdict : Failure Cause → String × Nat
  | .error cause => (report cause, 1)
  | .overflow => ("attempt to subtract with overflow\n", 101)

end ScreenCapture.Grab
