import CodeGraph.Text.CharSet

/-!
# Characters that differ in case only

Characters whose simple case foldings are equal form an orbit.  A table links each
character of an orbit to the next one: `41-5A+20` links every code point of the run to
the one that lies `20` above it.
-/

namespace CodeGraph.Text

/-- Links every code point of a run to the one that lies `step` above it. -/
structure CaseLink where
  run : CharSet
  step : Nat
deriving Inhabited

/-- The links between the neighbours of each orbit. -/
def caseLinks : Array CaseLink :=
  let table :=
    "41-5A+20 6B+20BF 73+10C B5+2E7 C0-D6+20 D8-DE+20 DF+1DBF E5+2046 FF+79 100-12E/2+1
    132-136/2+1 139-147/2+1 14A-176/2+1 179-17D/2+1 180+C3 181+D2 182+1 184+1 186+CE 187+1
    189-18A+CD 18B+1 18E+4F 18F+CA 190+CB 191+1 193+CD 194+CF 195+61 196+D3 197+D1 198+1
    19A+A3 19C+D3 19D+D5 19E+82 19F+D6 1A0-1A4/2+1 1A6+DA 1A7+1 1A9+DA 1AC+1 1AE+DA 1AF+1
    1B1-1B2+D9 1B3+1 1B5+1 1B7+DB 1B8+1 1BC+1 1BF+38 1C4-1C5+1 1C7-1C8+1 1CA-1CB+1
    1CD-1DB/2+1 1DE-1EE/2+1 1F1-1F2+1 1F4+1 1F8-21E/2+1 222-232/2+1 23A+2A2B 23B+1 23E+2A28
    23F-240+2A3F 241+1 244+45 245+47 246-24E/2+1 250+2A1F 251+2A1C 252+2A1E 25C+A54F
    261+A54B 265+A528 266+A544 26A+A544 26B+29F7 26C+A541 271+29FD 27D+29E7 282+A543
    287+A52A 29D+A515 29E+A512 345+54 370+1 372+1 376+1 37B-37D+82 37F+74 386+26 388-38A+25
    38C+40 38E-38F+3F 391-3A1+20 3A3+1F 3A4-3AB+20 3B2+1E 3B5+40 3B8+19 3B9+1C05 3BA+36
    3C0+16 3C1+30 3C2+1 3C6+F 3C9+1D5D 3CF+8 3D1+23 3D8-3EE/2+1 3F2+7 3F7+1 3FA+1 400-40F+50
    410-42F+20 432+184E 434+184D 43E+1844 441-442+1842 44A+183C 460-480/2+1 463+1824
    48A-4BE/2+1 4C0+F 4C1-4CD/2+1 4D0-52E/2+1 531-556+30 10A0-10C5+1C60 10C7+1C60 10CD+1C60
    10D0-10FA+BC0 10FD-10FF+BC0 13A0-13EF+97D0 13F0-13F5+8 1C84+1 1C88+89C2 1D79+8A04
    1D7D+EE6 1D8E+8A38 1E00-1E94/2+1 1E61+3A 1EA0-1EFE/2+1 1F00-1F07+8 1F10-1F15+8
    1F20-1F27+8 1F30-1F37+8 1F40-1F45+8 1F51-1F57/2+8 1F60-1F67+8 1F70-1F71+4A 1F72-1F75+56
    1F76-1F77+64 1F78-1F79+80 1F7A-1F7B+70 1F7C-1F7D+7E 1F80-1F87+8 1F90-1F97+8 1FA0-1FA7+8
    1FB0-1FB1+8 1FB3+9 1FC3+9 1FD0-1FD1+8 1FE0-1FE1+8 1FE5+7 1FF3+9 2132+1C 2160-216F+10
    2183+1 24B6-24CF+1A 2C00-2C2F+30 2C60+1 2C67-2C6B/2+1 2C72+1 2C75+1 2C80-2CE2/2+1 2CEB+1
    2CED+1 2CF2+1 A640-A66C/2+1 A680-A69A/2+1 A722-A72E/2+1 A732-A76E/2+1 A779+1 A77B+1
    A77E-A786/2+1 A78B+1 A790+1 A792+1 A794+30 A796-A7A8/2+1 A7B3+3A0 A7B4-A7C2/2+1 A7C7+1
    A7C9+1 A7D0+1 A7D6+1 A7D8+1 A7F5+1 FF21-FF3A+20 10400-10427+28 104B0-104D3+28
    10570-1057A+27 1057C-1058A+27 1058C-10592+27 10594-10595+27 10C80-10CB2+40
    118A0-118BF+20 16E40-16E5F+20 1E900-1E921+22"
  ((words table.toList).map fun word =>
    let run := word.takeWhile (· != '+')
    let step := word.drop (run.length + 1)
    ⟨⟨#[.ofWord run]⟩, natOfDigits 16 step⟩).toArray

private def largerCase? (char : Char) : Option Char :=
  (caseLinks.find? (·.run.contains char)).map fun link =>
    Char.ofNat (char.toNat + link.step)

private def smallerCase? (char : Char) : Option Char :=
  (caseLinks.find? fun link =>
    link.step ≤ char.toNat && link.run.contains (Char.ofNat (char.toNat - link.step))).map
      fun link => Char.ofNat (char.toNat - link.step)

private def follow (next? : Char → Option Char) : Nat → Char → List Char
  | 0, _ => []
  | steps + 1, char =>
      match next? char with
      | none => []
      | some other => other :: follow next? steps other

/-- The characters that differ from the given one in case only, itself included.  No
orbit has more than four members. -/
def caseOrbit (char : Char) : List Char :=
  char :: (follow largerCase? 3 char ++ follow smallerCase? 3 char)

end CodeGraph.Text
