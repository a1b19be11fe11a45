import ScreenCapture.Geometry

namespace ScreenCapture.Micros

def least : Int := -0x8000000000000000

def greatest : Int := 0x7fffffffffffffff

def saturate (v : Int) : Int := clamp least greatest v

/-- The time that agrees with `v` modulo `2 ^ 64`. -/
def wrap (v : Int) : Int := v.bmod 0x10000000000000000

end ScreenCapture.Micros
