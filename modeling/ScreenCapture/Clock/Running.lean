import ScreenCapture.Host

namespace ScreenCapture

structure RunningClock where
  now : Int
deriving DecidableEq, Repr

namespace RunningClock

def start : RunningClock := ⟨1720000000000000⟩

def pass (micros : Int) (clock : RunningClock) : RunningClock := ⟨clock.now + max 0 micros⟩

def reading (clock : RunningClock) : Int × RunningClock := (clock.now, clock.pass 1)

end RunningClock

def Clock.running : Clock RunningClock where
  now := RunningClock.reading
  sleep micros := modify (.pass micros)
  timer := RunningClock.reading

end ScreenCapture
