import ScreenCapture.Host
import ScreenCapture.Micros

namespace ScreenCapture

/-- A clock on which a sleep takes exactly as long as it is asked to. -/
structure ManualClock where
  now : Int
  slept : Int
deriving DecidableEq, Repr, Inhabited

namespace ManualClock

def startingAt (now : Int) : ManualClock := ⟨now, 0⟩

def advance (micros : Int) (clock : ManualClock) : ManualClock :=
  { clock with now := Micros.wrap (clock.now + micros) }

def sleep (micros : Int) (clock : ManualClock) : ManualClock :=
  if 0 < micros then
    { now := Micros.wrap (clock.now + micros), slept := Micros.wrap (clock.slept + micros) }
  else clock

end ManualClock

def Clock.manual : Clock ManualClock where
  now := do return (← get).now
  sleep micros := modify (.sleep micros)
  timer := do return (← get).now

end ScreenCapture
