import AlarmHistory.Domain.Composition
/- How letters of cursive scripts join. The two joiners are not seen and may stand only where they
   make a difference: after a sign that takes the vowel away, or, for the one that parts letters,
   between two that would join. -/
namespace AlarmHistory.Domain

/-- The signs: `d` joins on both sides, `l` and `r` on one, `t` is passed over, and `u` never
   joins. -/
def joiningRows : List String :=
  ["300u 71t 112u 8t 106u 2Dt 1u 1t 1u 2t 1u 2t 1u 9t 40u Bt 5u 1d 1u 4r 1d 1r 1d 1r 5d 4r Dd 1u",
    "7d 1r 2d 15t Eu 2d 1t 3r 5u Fd 12r 26d 1r 2d 9r 1d 1r 1d 1r 2d 2r 1u 1r 8t 1u 6t 2u 2t 1u 4t",
    "2r Au 3d 2u 1d 10u 1r 1t 3d 5r 4d 1r 9d 1r 1d 1r 1d 1r 2d 1r 1Dt 1r Bd 3r Fd 2r 4d 1r 1d 2r",
    "3d 2r 6d 26u Bt 19u 21d 9t 9u 1t 18u 4t 1u 9t 1u 3t 1u 7t 10u 1r 5d 2r 1d 1r Ad 1r 1d 3r 5t",
    "2u 1d 1u 4d 1u 1r 1d 1Ar 3u 1d 2u 5d 1r 9u 8t Ad 3r 1u 1r 2d 2r 6d 1r Fd 1u 39t 37u 1t 1u 1t",
    "4u 8t 4u 1t 3u Ft 2u 2t 1Du 1t 3Au 1t 4u 6t 6u 1t 14u 4t 18u 5t 39u 2t 3u 1Bt 14u 2t 3u 1t",
    "Bu 2t 39u 1t 4u 8t 4u 3t 12u 4t 14u 8t 3Au 1t 2u 1t 1u 6t 6u At Bu 4t 1Cu 1t 3Du 1t Cu 3t",
    "30u 1t 3u 1t 37u 1t 1u 3t 5u 12t Au 4t 1Bu 1t 3Au 1t 2u 1t 6u 1t 5u 9t Du 4t 1Au 2t 39u 2t",
    "4u 5t 7u 1t 14u 4t 1Bu 1t 48u 5t 3u 6t 59u 1t 2u Bt 8u 8t 62u 1t 2u 9t Bu 8t 48u 2t 1Bu 1t",
    "1u 1t 1u 1t 37u Et 1u 5t 1u 2t 5u 31t 8u 1t 66u 4t 1u 6t 1u 2t 2u 2t 19u 2t 4u 3t 10u 4t Du",
    "1t 2u 2t 6u 1t Fu 1t 2BFu 3t 3B2u 3t 1Du 2t 1Eu Et 12u Et 37u 7t 8u 1t 2u Bt 9u 3t 27u 1d",
    "18u 60d 5u 2t 22d 1t 6d 70u 3t 4u 2t 9u 1t 6u 7t D7u 2t 2u 3t 38u 1t 1u 9t 1u 1t 2u 8t 6u Dt",
    "30u 1Ft 31u 4t 30u 1t 1u 5t 1u 1t 5u 1t 28u 9t Cu 2t 20u 4t 2u 2t 1u 3t 38u 1t 1u 2t 3u 1t",
    "1u 3t 3Au 8t 2u 5t 95u 3t 1u Dt 1u 7t 4u 1t 6u 1t 3u 2t C6u 41t 2CFu 34t BEBu 4t 8Cu 1t 60u",
    "20t 22Au 4t 6Bu 4t 75D2u 4t 1u At 20u 2t 50u 2t 110u 1t 3u 1t 4u 1t 19u 2t 5u 4t 10u 32d 1l",
    "51u At 12u 12t Du 1t 26u 8t 19u Bt 2Eu 3t 30u 1t 2u 4t 2u 2t 27u 1t 43u 6t 2u 2t 2u Bt 3u 1t",
    "8u 1t 2Fu 1t 33u 1t 1u 3t 2u 2t 5u 2t 1u 1t 2Au 2t 8u Bt E4u 1t 2u 1t 4u 3t 4F2Eu 94t 26Eu",
    "25t 3B8u 83t 60u 1t 95u At 681u Ft 28u 8t 80u 5d 1r 1u 1r 1u 2r 2u 1l 5r 4d 1l 5d 1r 3d 1r",
    "2u 1r 6t 4d 1r 90u 1d 1r 1d 3r 3d 1r 2d 1r 1d 2r 1d 8r 10u 4r 2d 151u 1l 21d 1r 1d Ct 17Bu",
    "2t 50u 3t 30u 3d 1r 11d 1u Bt 3d 1r 1Bu 4d 2r Cd 4t 2Au 1d 1u 2d 3r 1u 1d 2r 2d 1r 2d 1u 1d",
    "2r 1d 4u 1r 1d 15l 21u 1t 36u Ft 29u 1t 2u 2t Au 3t 31u 4t 2u 2t 7u Et 30u 3t 24u 5t 1u 9t",
    "3Du 1t Cu 2t 34u 9t Au 4t 2u 1t 5Fu 3t 2u 1t 1u 2t 6u 1t 2u 3Ft 5Fu 1t 3u Dt 10u 2t 39u 2t",
    "3u 1t 25u 1At B8u 8t 2u 3t 1u 1t 17u 1t 54u 6t 1u 1t 4u 2t 1u 2t EEu 6t 4u 2t 1u 2t 1Bu 24t",
    "33u 8t 2u 1t 1u 2t 6Au 1t 1u 1t 2u 6t 1u 1t 65u 3t 2u 4t 1u 9t FFu 9t 1u 2t 100u 2t 1u 1t 4u",
    "1t 90u 8t 4u 1t 20u At 28u 6t 2u 4t 8u 9t 1u 6t 2u 3t 2Eu Dt 1u 2t 196u Et 1u 1t 52u 17t 1u",
    "7t 1u 2t 1u 4Bt 31u 15t 1u 9t 40u 3t 2u 1t 1u 1t 15Bu 2t Bu 2t 34u 8t 2u 1t 1u 1t 14FDu 1t",
    "6u 19t 3690u 5t 3Bu 7t 418u 1t 3Fu 4t 51u Ct 4CADu 2t 1261u 50t 217u 3t 11u 8t 2u 7t 1Eu 4t",
    "94u 3t 7BBu 37t 4u 32t 8u 1t Eu 1t 16u 465t 100u 100t 30u 7t 177u 12t 2Cu 4t 1FCu 4t 3E0u",
    "52t 22d Ct"]

def joiningRuns : List Run := runsOf joiningRows

def joining (c : Char) : Char := signAt joiningRuns 'u' c

def joiner : Char := '\u200d'

def nonJoiner : Char := '\u200c'

def vowelKiller : Nat := 9

def fits (c : Char) (before after : List Char) : Bool :=
  let next (cs : List Char) : Option Char := (cs.map joining).find? (· != 't')
  before.head?.any (markClass · == vowelKiller) ||
    (c == nonJoiner && (next before).any (['l', 'd'].contains ·) &&
      (next after).any (['r', 'd'].contains ·))

def joinersFit : List Char → List Char → Bool
  | _, [] => true
  | before, c :: after =>
    (!(c == joiner || c == nonJoiner) || fits c before after) && joinersFit (c :: before) after

end AlarmHistory.Domain
