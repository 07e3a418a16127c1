import FormModel.Unicode.Runs

/-!
Which characters differ only in case.
-/

namespace FormModel.Unicode

/-- Rows of pairs: the first of `count` characters that lie `step` apart, each with the character that is
`distance` behind it. -/
def foldingPairLines : List String := [
  "41:A:1:20 4C:8:2:20 4D:4:4:20 4F:1:1:20 57:1:1:20 C0:10:2:20 C1:2:2:20 C7:8:2:20 D9:3:2:20",
  "DF:1:1:1DBF FF:1:1:79 100:18:2:1 132:3:2:1 139:8:2:1 14A:17:2:1 179:3:2:1 180:1:1:C3 181:1:1:D2",
  "182:2:2:1 186:1:1:CE 187:2:4:1 189:2:1:CD 18E:1:1:4F 18F:1:1:CA 190:1:1:CB 191:1:1:1 193:1:1:CD",
  "194:1:1:CF 195:1:1:61 196:1:1:D3 197:1:1:D1 198:1:1:1 19A:1:1:A3 19B:1:1:A641 19C:1:1:D3",
  "19D:1:1:D5 19E:1:1:82 19F:1:1:D6 1A0:3:2:1 1A6:2:3:DA 1A7:1:1:1 1AC:2:3:1 1AE:1:1:DA 1B1:2:1:D9",
  "1B3:2:2:1 1B7:1:1:DB 1B8:2:4:1 1BF:1:1:38 1CD:8:2:1 1DE:9:2:1 1F4:B:4:1 1FA:F:4:1 224:4:4:1",
  "23A:1:1:2A2B 23B:1:1:1 23E:1:1:2A28 23F:2:1:2A3F 241:1:1:1 244:1:1:45 245:1:1:47 246:5:2:1",
  "250:1:1:2A1F 251:1:1:2A1C 252:1:1:2A1E 25C:1:1:A54F 261:1:1:A54B 264:1:1:A567 265:1:1:A528",
  "266:2:4:A544 26B:1:1:29F7 26C:1:1:A541 271:1:1:29FD 27D:1:1:29E7 282:1:1:A543 287:1:1:A52A",
  "29D:1:1:A515 29E:1:1:A512 370:2:2:1 376:1:1:1 37B:3:1:82 37F:1:1:74 386:1:1:26 388:3:1:25",
  "38C:1:1:40 38E:2:1:3F 390:1:1:1C43 391:3:3:20 393:2:3:20 39B:3:2:20 39E:1:1:20 3A4:3:3:20",
  "3A5:3:3:20 3B0:1:1:1C33 3CF:1:1:8 3D8:C:2:1 3F2:1:1:7 3F7:2:3:1 400:10:1:50 410:6:3:20",
  "411:2:4:20 417:9:3:20 418:2:3:20 424:2:1:20 427:2:1:20 42B:2:2:20 42E:1:1:20 460:9:4:1",
  "466:7:4:1 48A:1B:2:1 4C0:1:1:F 4C1:7:2:1 4D0:30:2:1 531:26:1:30 10A0:26:1:1C60 10C7:1:1:1C60",
  "10CD:1:1:1C60 10D0:2B:1:BC0 10FD:3:1:BC0 13A0:50:1:97D0 13F0:6:1:8 1C89:1:1:1 1D79:1:1:8A04",
  "1D7D:1:1:EE6 1D8E:1:1:8A38 1E00:30:2:1 1E62:1A:2:1 1EA0:30:2:1 1F00:8:1:8 1F10:6:1:8 1F20:8:1:8",
  "1F30:8:1:8 1F40:6:1:8 1F51:4:2:8 1F60:8:1:8 1F70:2:1:4A 1F72:4:1:56 1F76:2:1:64 1F78:2:1:80",
  "1F7A:2:1:70 1F7C:2:1:7E 1F80:8:1:8 1F90:8:1:8 1FA0:8:1:8 1FB0:2:1:8 1FB3:1:1:9 1FC3:1:1:9",
  "1FD0:2:1:8 1FE0:2:1:8 1FE5:1:1:7 1FF3:1:1:9 2132:1:1:1C 2160:10:1:10 2183:1:1:1 24B6:1A:1:1A",
  "2C00:30:1:30 2C60:1:1:1 2C67:3:2:1 2C72:2:3:1 2C80:32:2:1 2CEB:2:2:1 2CF2:1:1:1 A640:C:4:1",
  "A642:2:4:1 A64E:8:4:1 A680:E:2:1 A722:14:4:1 A724:3:4:1 A734:F:4:1 A779:2:2:1 A77E:5:2:1",
  "A78B:1:1:1 A790:2:2:1 A794:1:1:30 A796:A:2:1 A7B3:1:1:3A0 A7B4:8:2:1 A7C7:2:2:1 A7CC:2:4:1",
  "A7D6:3:2:1 A7F5:1:1:1 FB05:1:1:1 FF21:1A:1:20 10400:28:1:28 104B0:24:1:28 10570:13:2:27",
  "10571:A:4:27 10573:2:4:27 1057F:3:4:27 1058F:1:1:27 10C80:33:1:40 10D50:16:1:20 118A0:20:1:20",
  "16E40:20:1:20 1E900:22:1:22"]

/-- Groups of three or more characters. -/
def foldingGroupLines : List String := [
  "4B=6B=212A 53=73=17F B5=39C=3BC C5=E5=212B 1C4=1C5=1C6 1C7=1C8=1C9 1CA=1CB=1CC 1F1=1F2=1F3",
  "345=399=3B9=1FBE 392=3B2=3D0 395=3B5=3F5 398=3B8=3D1=3F4 39A=3BA=3F0 3A0=3C0=3D6 3A1=3C1=3F1",
  "3A3=3C2=3C3 3A6=3C6=3D5 3A9=3C9=2126 412=432=1C80 414=434=1C81 41E=43E=1C82 421=441=1C83",
  "422=442=1C84=1C85 42A=44A=1C86 462=463=1C87 1C88=A64A=A64B 1E60=1E61=1E9B"]

/-- The pairs of a row. -/
def foldingPairs (row : String) : List (List Nat) :=
  match (row.splitOn ":").map fun part => hexNat part.toList with
  | [first, count, step, distance] =>
    (List.range count).map fun i => [first + i * step, first + i * step + distance]
  | _ => []

/-- The pairs and the greater groups. -/
def foldingGroups : List (List Nat) :=
  (words foldingPairLines).flatMap foldingPairs ++
    (words foldingGroupLines).map fun word => (word.splitOn "=").map fun part => hexNat part.toList

/-- The characters that differ from others only in case, in ascending order, each with its group. -/
def foldingRuns : Array (Run (List Char)) :=
  (foldingGroups.flatMap fun group => group.map fun n => ⟨n, n + 1, group.map Char.ofNat⟩).toArray.qsort
    fun a b => a.first < b.first

/-- A character and all that differ from it only in case. -/
def caseVariants (c : Char) : List Char := (labelOf? foldingRuns c).getD [c]

/-- Whether some other character differs from it only in case. -/
def hasCaseVariants (c : Char) : Bool := (labelOf? foldingRuns c).isSome

end FormModel.Unicode
