import IndigoMatter.Bridge.Protocol
import IndigoMatter.Library.InsertionMap
import IndigoMatter.Library.PyValue

/-!
# Colour-temperature bounds

An export publishes a range of colour temperatures.  Each side of it comes from
the first of three sources that has one: what the learner has observed, what the
user has declared, and the generic domain.  The two sides do not have to agree on
their source.
-/

namespace IndigoMatter.Plugin

open IndigoMatter.Library
open IndigoMatter.Bridge (Role)

/-- The `options` of an export entry. -/
abbrev Options := InsertionMap String PyValue

def GENERIC_MIN_MIREDS : Int := 153

def GENERIC_MAX_MIREDS : Int := 500

/-- The roles a colour-temperature bound means anything for. -/
def CT_ROLES : List Role := [.colorTemperatureLight, .extendedColorLight]

/-- The user's seed. -/
def OPTION_CT_MIN_MIREDS : String := "ctMinMireds"

def OPTION_CT_MAX_MIREDS : String := "ctMaxMireds"

/-- The learner's own record. -/
def OPTION_CT_LEARNED_MIN_MIREDS : String := "ctLearnedMinMireds"

def OPTION_CT_LEARNED_MAX_MIREDS : String := "ctLearnedMaxMireds"

/-- The keys only the learner writes on its own. -/
def LEARNED_KEYS : List String := [OPTION_CT_LEARNED_MIN_MIREDS, OPTION_CT_LEARNED_MAX_MIREDS]

/-- The bound stored under a key, when `is_valid_ct_bound` accepts it. -/
def ctBound? (options : Options) (key : String) : Option Int :=
  (options.get? key).bind PyValue.integer?

/-- One side: learned, else seed, else generic. -/
def ctSide (options : Options) (learnedKey seedKey : String) (generic : Int) : Int :=
  ((ctBound? options learnedKey).or (ctBound? options seedKey)).getD generic

/-- The effective pair. -/
def effectiveCtBounds (options : Options) : Int × Int :=
  (ctSide options OPTION_CT_LEARNED_MIN_MIREDS OPTION_CT_MIN_MIREDS GENERIC_MIN_MIREDS,
    ctSide options OPTION_CT_LEARNED_MAX_MIREDS OPTION_CT_MAX_MIREDS GENERIC_MAX_MIREDS)

/-- The keys that never leave the plugin under their stored meaning. -/
def STORED_KEYS : List String :=
  [OPTION_CT_MIN_MIREDS, OPTION_CT_MAX_MIREDS, OPTION_CT_LEARNED_MIN_MIREDS,
    OPTION_CT_LEARNED_MAX_MIREDS]

/-- `has_stored_ct_bounds`: the keys count, not what they hold. -/
def hasStoredCtBounds (options : Options) : Bool := STORED_KEYS.any options.has

/-- `wire_options`: the other options, and the effective pair when any bound is
stored. -/
def wireOptions (options : Options) : Options :=
  let result := options.filterKeys fun key => key ∉ STORED_KEYS
  if hasStoredCtBounds options then
    (result.set OPTION_CT_MIN_MIREDS (.int (effectiveCtBounds options).1)).set
      OPTION_CT_MAX_MIREDS (.int (effectiveCtBounds options).2)
  else result

end IndigoMatter.Plugin
