import ArithAsm.Defect

/-!
Targets: the kind of machine that code is written for.
-/

namespace ArithAsm

structure Target where
  triplet : Text
  architecture : Text
  operatingSystem : Text
  deriving DecidableEq

namespace Target

def amd64 : Text := "AMD64"

def amd64Linux : Target := ⟨"amd64-unknown-linux", amd64, "Linux"⟩

def arm64Darwin : Target := ⟨"arm64-apple-darwin", "ARM64", "Darwin"⟩

def known : List Target := [amd64Linux, arm64Darwin]

def ofTriplet? (triplet : Text) : Option Target := known.find? (·.triplet = triplet)

def standard : Target := amd64Linux

/-- The target, of which some field is asked for. -/
def required (field : Text) (target : Option Target) : Except Defect Target :=
  match target with
  | some target => .ok target
  | none => .error (.targetMissing field)

end Target

end ArithAsm
