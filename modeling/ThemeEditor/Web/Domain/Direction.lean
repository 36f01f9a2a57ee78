/-
# ThemeEditor.Web.Domain.Direction -- names in scripts of both directions

A name with characters that are written from right to left has to look the same
from either side: every label keeps to one direction, begins with a letter of it
and ends with a letter or a digit.
-/
import ThemeEditor.Text.Mark

namespace ThemeEditor.Web.Domain

set_option autoImplicit false

/-- How a character takes part in the direction of a text. -/
inductive Direction where
  | left
  | right
  | europeanDigit
  | arabicDigit
  /-- It takes the direction of what stands around it. -/
  | neutral
  /-- It takes the direction of the character before it. -/
  | mark
  deriving DecidableEq, Repr

/-- The letters that are written from right to left. -/
def rightRanges : List (Nat × Nat) := Text.rangesOf
  ["5BE;5C0;5C3;5C6;5D0 5F4;608;60B;60D;61B 64A;66D 66F;671 6D5;6E5 6E6;6EE 6EF;6FA 710;712 72F",
   "74D 7A5;7B1 7EA;7F4 7F5;7FA;7FE 815;81A;824;828;830 858;85E 88F;8A0 8C9;FBB2 FBD2;FD90 FDCE",
   "FE73;10800 1091B;10920 10A00;10A10 10A35;10A40 10AE4;10AEB 10B35;10B40 10D23;10D4A 10D4F",
   "10D6E 10D8F;10E80 10EA9;10EAD 10ED8;10F00 10F45;10F51 10F81;10F86 10FF6;1E800 1E8CF",
   "1E922 1E943;1E94B 1ED3D"]

def arabicDigitRanges : List (Nat × Nat) := Text.rangesOf
  ["660 669;66B 66C;10D30 10D49;10E60 10E7E"]

def europeanDigitRanges : List (Nat × Nat) := Text.rangesOf
  ["6F0 6F9;102E1 102FB"]

def neutralRanges : List (Nat × Nat) := Text.rangesOf
  ["A1 D7;F7;2B9 2BA;2C2 2CF;2D2 2ED;2EF 2FF;375;3F6;58A 58F;606 607;609 60A;60C;60E 60F;66A;6DE",
   "6E9;7F6 7F9;9F2 9F3;9FB;AF1;BF3 BFA;C78 C7E;E3F;F3A F3D;1390 1399;1400;169B 169C;17DB",
   "17F0 180A;1940 1945;19DE 19FF;200C 20C1;2104 214D;218A 2335;237B 2394;2396 26AB;26AD 27FF",
   "2900 2B95;2B97 2BFF;2CE5 2CEA;2CF9 2CFF;2E00 3004;3008 3020;3030;3037;303D 303F;30A0;30FB",
   "31C0 31E5;4DC0 4DFF;A490 A4C6;A60D A60F;A673;A67E A67F;A700 A721;A788;A828 A82B;A838 A839",
   "A874 A877;AB6A AB6B;FD3E FD4F;FDCF FDFF;FE45 FE46;10101;10140 1018C;10190 101A0;1091F",
   "10B39 10B3F;11052 11065;11660 1166C;11FD5 11FF1;16FE2;1CC00 1CEBF;1D1E9 1D241;1D245",
   "1D300 1D356;1E2FF;1EEF0 1F12F;1F16D 1F16F;1F1AD;1F260 1FBFA"]

/-- The direction of a character of a name. -/
def Direction.of (c : Char) : Direction :=
  if c.toNat < 0x80 then
    if c.isDigit then .europeanDigit else if c.isAlpha then .left else .neutral
  else if Text.isNonspacing c then .mark
  else if Text.inRanges rightRanges c then .right
  else if Text.inRanges arabicDigitRanges c then .arabicDigit
  else if Text.inRanges europeanDigitRanges c then .europeanDigit
  else if Text.inRanges neutralRanges c then .neutral
  else .left

/-- Whether a label with these directions keeps to one of them.  An empty one does. -/
def isOneWay (ds : List Direction) : Bool :=
  let last := (ds.reverse.dropWhile (· = .mark)).head?
  match ds with
  | [] => true
  | .right :: _ =>
      !ds.contains .left &&
        (last = some .right || last = some .europeanDigit || last = some .arabicDigit) &&
        !(ds.contains .europeanDigit && ds.contains .arabicDigit)
  | .left :: _ =>
      !ds.contains .right && !ds.contains .arabicDigit &&
        (last = some .left || last = some .europeanDigit)
  | _ => false

/-- Whether the labels of a name may stand together: if anything in it is written from
right to left, each has to keep to one direction. -/
def isReadable (labels : List (List Char)) : Bool :=
  let ds := labels.map fun label => label.map Direction.of
  let turns := ds.flatten.any fun d => d = .right || d = .arabicDigit
  !turns || ds.all isOneWay

end ThemeEditor.Web.Domain
