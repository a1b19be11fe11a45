import ScreenCapture.FrameRate
import ScreenCapture.Micros

namespace ScreenCapture

/-- Deadlines are counted in millionths of a frame, so that an interval has the same length at every
rate and no rounding adds up. -/
def frameUnits : Int := 1000000

/-- A time to wait, and the deadline that holds once the frame is taken. -/
structure Schedule where
  delay : Int
  deadline : Int
deriving DecidableEq, Repr

def Schedule.IsDue (schedule : Schedule) : Prop := schedule.delay ≤ 0

instance (schedule : Schedule) : Decidable schedule.IsDue :=
  inferInstanceAs (Decidable (_ ≤ _))

/-- A frame rate with the deadline of the frame taken last. -/
structure Pacer where
  rate : FrameRate
  deadline : Int
deriving DecidableEq, Repr

namespace Pacer

def start (rate : FrameRate) (now : Int) : Pacer := ⟨rate, (now * rate.num).tdiv rate.den⟩

variable (pacer : Pacer)

def timeOf (deadline : Int) : Int := (deadline * pacer.rate.den).tdiv pacer.rate.num

def wait (now : Int) : Int := pacer.timeOf (pacer.deadline + frameUnits) - now

/-- More than one interval has passed since the next frame was due. -/
def Lags (now : Int) : Prop :=
  pacer.wait now ≤ 0 ∧ pacer.wait now * pacer.rate.num < -(frameUnits * pacer.rate.den)

instance (now : Int) : Decidable (pacer.Lags now) := inferInstanceAs (Decidable (_ ∧ _))

/-- The deadline moves on by one interval, and by a second one if the pacer lags, so that a slow
reader meets at most one frame that is due at once. -/
def schedule (now : Int) : Schedule where
  delay := Micros.saturate (pacer.wait now)
  deadline := pacer.deadline + frameUnits + if pacer.Lags now then frameUnits else 0

def commit (schedule : Schedule) : Pacer := { pacer with deadline := schedule.deadline }

end Pacer

end ScreenCapture
