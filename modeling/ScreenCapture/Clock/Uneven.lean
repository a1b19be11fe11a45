import ScreenCapture.Host
import ScreenCapture.Micros

namespace ScreenCapture

/-- A sleep lasts `longest` at most, and then `overrun` more. -/
structure UnevenClock where
  now : Int
  longest : Int
  overrun : Int
deriving DecidableEq, Repr

namespace UnevenClock

def startingAt (now : Int) : UnevenClock := ⟨now, Micros.greatest, 0⟩

def advance (micros : Int) (clock : UnevenClock) : UnevenClock :=
  { clock with now := Micros.saturate (clock.now + micros) }

def sleep (micros : Int) (clock : UnevenClock) : UnevenClock :=
  clock.advance (Micros.saturate (min micros clock.longest + clock.overrun))

end UnevenClock

def Clock.uneven : Clock UnevenClock where
  now := do return (← get).now
  sleep micros := modify (.sleep micros)
  timer := do return (← get).now

end ScreenCapture
