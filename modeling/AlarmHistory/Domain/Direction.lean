import AlarmHistory.Domain.Runs
/- Which way scripts run. In a name that has letters of a script from right to left, every label has
   to show in one order only. -/
namespace AlarmHistory.Domain

/-- The signs: `l` and `r` are letters from left to right and from right to left, `a` and `e`
   are digits of two kinds, `m` is a mark without a direction and `c` one from left to right, and
   `o` has no direction of its own. -/
def directionRows : List String :=
  ["9o 5x Eo 5x Fo Ae 27o 1Al 64o 18l 1o 1C1l 2o 7l Eo 2l 1Co 1l 11o 71m 4l 2o 7Fl 2o 8Bl 8m FFl",
    "7o 2Dm 1r 1m 1r 2m 1r 2m 1r 9m 36r 2o 1r 2o 1r 1o 1r 2o Bm 30r 15m Aa 1o 2a 3r 1m 65r 8m 1o",
    "6m 2r 2m 1o 4m 2r Ae 17r 1m 1Er 1Dm 59r Bm 3Ar 9m 2r 4o 3r 1m 18r 4m 1r 9m 1r 3m 1r 7m 29r",
    "5m 39r 9m 2Ar 39m 1c 36l 1m 1c 1m 1l 3c 8m 4c 1m 2c 1l Fm 2l 2m 1Dl 1m 3c 37l 1m 1l 3c 6m 6c",
    "1m 9l 9c 2l 4m Cl 2o 7l 1o 2l 5m 2c 37l 2m 3c 1Bm 14l 2m 3l 1m Bl 2m 2c 37l 1m 1l 3c 8m 4c",
    "3m 12l 4m Bl 8o 1l 8m 3c 37l 1m 1l 1c 1m 1c 6m 6c Am 8c 3l 4m 1Cl 1m 3Bl 2c 1m Cc 3m 7l Fc",
    "Dl Do 1m 3c 1m 37l 1m 1l 3m 5c 12m Al 4m 12l 7o 2l 1m 2c 38l 1m 1l Ec 9m 7c 6l 4m Dl Dc 2m",
    "2c 37l 2m 1l 3c 5m 7c 1m 9l 1c Al 4m 1Bl 1m 3c 45l 5m 3c 6m Ec Cl 2c 3Dl 1m 2l Bm 1o 7l 8m",
    "62l 1m 2l 9m Bl 8m 48l 2m 1Bl 1m 1l 1m 1l 1m 4o 2c 31l Em 1c 5m 1l 2m 5l 31m 8l 1m 64l 2c 4m",
    "1c 6m 1c 2m 2c 2m 17l 2c 2m 4l 3m 1l 3c 2l 7c 3l 4m Dl 1m 2c 2m 6c 1m 1l 1c Al 3c 1m 2BFl 3m",
    "30l 10o 60l 1o 29Al 5o 72l 3m Ac 13l 2m 1c 1Dl Em 12l Em 36l 1c 7m 8c 1m 2c Bm 7l 1o 1l 3m",
    "10l 20o 75l 2m 22l 1m 76l 3m 4c 2m 9c 1m 6c 7m 6o 98l 22o 17l 2m 2c 3m 37l 1c 1m 1c 9m 1c 1m",
    "2c 8m 6c Dm 30l 1Fm 31c 4m 1c 2Fl 1m 1c 5m 1c 1m 5c 1m 2c 26l 9m Cl 2m 1c 1El 1c 4m 2c 2m 1c",
    "3m 38l 1m 1c 2m 3c 1m 1c 3m Ac 28l 8c 8m 2c 5m 95l 3m 1l Dm 1c 7m 4l 1m 6l 1m 2l 1c 2m C6l",
    "41m 20Bl C4o 34m 4Ao 3Cl 1ACo 45l 1Ao 1l 91o 19l 26Co 1l 153o 100l 296o 1l 99o B5l 7o 3l 4m",
    "6l 7o 7Fl 1m 60l 20m 205o 3l 19o 9l 4m 2c 1o 6l 4o 2l 4o 58l 4m 3l 1o 5Al 1o C4l 24o 1BDCl",
    "40o 5690l 40o 13Dl 3o 5Fl 4m 1o Am 3o 1Dl 2m 50l 2m El 23o 65l 1o 79l 1m 3l 1m 4l 1m 17l 2c",
    "2m 1c 4o 4m 8l 8o 34l Co 2c 32l 10c Am 12l 12m Dl 1m 26l 8m 19l Bm Dc 21l 3m 1c 2Fl 1m 2c 4m",
    "2c 2m 3c 24l 1m 43l 6m 2c 2m 2c Bm 3l 1m 8l 1m 3c 2Bl 1c 1m 1c 32l 1m 1l 3m 2l 2m 5l 2m 1l",
    "1m 29l 1c 2m 2c 5l 1c Bm 69l 56o 23l 2c 1m 2c 1m 2c 1l 1c 3m 4F2El 94m 18Cr 52o 3Fr 51o 25m",
    "2Eo 18Dr 101l 1o 3El 4Do 3l 40o 2Dl 83m 60l 1m 1Fe 76l Am 480l 11Fr 1o E1r Fm 28r 8m A5r 6m",
    "4Er 7o 1E4r Cm 10a 29r 5m F2r 20a 2Br 2m 4Dr 6m 46r Bm 31r 4m 7Ar 1c 1m 1c 35l Fm Bl 14o Al",
    "1m 2l 2m Al 3m 1c 2Dl 3c 4m 2c 2m 7l Em 30l 3m 24l 5m 1c 9m Fl 2c 2Cl 1m Cl 2m 1c 30l 3c 9m",
    "2c 8l 4m 1l 1c 1m 5Cl 3c 3m 2c 1m 1c 2m 6l 1m 2l 3Fm 5Fl 1m 3c Dm 10l 2m 3c 36l 2m 1l 2c 1m",
    "Fc 7l 6c 5l 4c 1Am 38l 19c 1l 1c El 1Fc 35l 3c 8m 2c 3m 1c 1m 17l 1m 51l 3c 6m 1c 1m 4c 2m",
    "1c 2m EBl 3c 6m 4c 2m 1c 2m 1Bl 24m 30l 3c 8m 2c 1m 1c 2m 1Fl 20o 2Bl 1m 1c 1m 2c 6m 1c 1m",
    "65l 3m 2c 4m 1c 9m FCl 3c 9m 1c 2m F5l Bc 2m 1c 1m 1l 1c 1l 1c 1m 8Dl 3c 8m 4c 1m 3l 1Cc 1l",
    "6m 2c 2m 28l 6m 1c 1l 4m 8l 9m 1l 6m 2c 3m 2El Dm 1c 2m C6l 60c 6Fl 1c Em 2c 52l 17m 1c 7m",
    "1c 2m 1c 4Bm 31l 15m 1l 9m 3Al 6c 3m 2c 1m 1c 1m 15Bl 2m 2c 9l 2m 1l 1c 30l 2c 8m 2c 1m 1c",
    "1m 17l 56c 25l 2Ao 1441l 1m 6l 19m 2CBEl 12c 9C0l 5m 3Bl 7m 418l 1m 1l 3Ec 4m 4Fl 1o 1l Cm",
    "2c 4CABl 2m 1261l 50m 215l 2c 3m 3l Ec 8m 2l 7m 1El 4m 3Bl 59o 3m 7Bo 40l 60o 6A0l 37m 4l",
    "32m 8l 1m El 1m 16l 465m 100l 100m 30l 7m 177l 12m 2Cl 4m Fl 1D1o 1Cl 4m FEl 2c F3l 1c 2l 1c",
    "7l 2c 5l 9c 102l D0r 52m 22r 7m 5A5r 260o 1Dl 3o 3Dl 39o 7Al 478o 4l 9Bo 4l 137o 4El 154o Cl",
    "29o 7l 2Eo 1l 7o 8l Eo 4l 9o 7l DBo"]

def directionRuns : List Run := runsOf directionRows

def direction (c : Char) : Char := signAt directionRuns 'l' c

def isMark (c : Char) : Bool := direction c == 'm' || direction c == 'c'

def isLeftward (c : Char) : Bool := direction c == 'r' || direction c == 'a'

def lastDirection (label : List Char) : Option Char :=
  (label.reverse.map direction).find? (· != 'm')

def isOneWay (label : List Char) : Bool :=
  let ds := label.map direction
  let endsWith (signs : List Char) : Bool := (lastDirection label).any signs.contains
  match ds.head? with
  | none => true
  | some 'r' =>
    ds.all (['r', 'a', 'e', 'o', 'm'].contains ·) && endsWith ['r', 'a', 'e'] &&
      !(ds.contains 'a' && ds.contains 'e')
  | some 'l' | some 'c' =>
    ds.all (['l', 'c', 'e', 'o', 'm'].contains ·) && endsWith ['l', 'c', 'e']
  | _ => false

def showsInOrder (labels : List (List Char)) : Bool :=
  !labels.any (·.any isLeftward) || labels.all isOneWay

end AlarmHistory.Domain
