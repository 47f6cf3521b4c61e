import QueryFlow.Sql.Function.Parts

/-!
Functions as clickhouse reads them.
-/

namespace QueryFlow.Sql

namespace Function

/-- The units whose start has a function of its own. -/
def startNames : List (String × String) :=
  [("TOMONDAY", "WEEK"), ("TOSTARTOFDAY", "DAY"), ("TOSTARTOFHOUR", "HOUR"),
   ("TOSTARTOFMICROSECOND", "MICROSECOND"), ("TOSTARTOFMILLISECOND", "MILLISECOND"),
   ("TOSTARTOFMINUTE", "MINUTE"), ("TOSTARTOFMONTH", "MONTH"), ("TOSTARTOFQUARTER", "QUARTER"),
   ("TOSTARTOFSECOND", "SECOND"), ("TOSTARTOFYEAR", "YEAR")]

/-- Functions over many rows that may have two lists of arguments: first what tunes them, then the
values. Their names count letter by letter. -/
def groupStems : List String :=
  ["count", "min", "max", "sum", "avg", "any", "stddevPop", "stddevSamp", "varPop", "varSamp",
   "corr", "covarPop", "covarSamp", "entropy", "exponentialMovingAverage", "intervalLengthSum",
   "kolmogorovSmirnovTest", "mannWhitneyUTest", "median", "rankCorr", "sumKahan", "studentTTest",
   "welchTTest", "anyHeavy", "anyLast", "boundingRatio", "first_value", "last_value", "argMin",
   "argMax", "avgWeighted", "topK", "approx_top_sum", "topKWeighted", "deltaSum",
   "deltaSumTimestamp", "groupArray", "groupArrayLast", "groupConcat", "groupUniqArray",
   "groupArrayInsertAt", "groupArrayMovingAvg", "groupArrayMovingSum", "groupArraySample",
   "groupBitAnd", "groupBitOr", "groupBitXor", "groupBitmap", "groupBitmapAnd", "groupBitmapOr",
   "groupBitmapXor", "sumWithOverflow", "sumMap", "minMap", "maxMap", "skewSamp", "skewPop",
   "kurtSamp", "kurtPop", "uniq", "uniqExact", "uniqCombined", "uniqCombined64", "uniqHLL12",
   "uniqTheta", "quantile", "quantiles", "quantileExact", "quantilesExact", "quantilesExactLow",
   "quantileExactLow", "quantileExactHigh", "quantilesExactHigh", "quantileExactWeighted",
   "quantilesExactWeighted", "quantileTiming", "quantilesTiming", "quantileTimingWeighted",
   "quantilesTimingWeighted", "quantileDeterministic", "quantilesDeterministic",
   "quantileTDigest", "quantilesTDigest", "quantileTDigestWeighted", "quantilesTDigestWeighted",
   "quantileBFloat16", "quantilesBFloat16", "quantileBFloat16Weighted",
   "quantilesBFloat16Weighted", "simpleLinearRegression", "stochasticLinearRegression",
   "stochasticLogisticRegression", "categoricalInformationValue", "contingency", "cramersV",
   "cramersVBiasCorrected", "theilsU", "maxIntersections", "maxIntersectionsPosition",
   "meanZTest", "quantileInterpolatedWeighted", "quantilesInterpolatedWeighted", "quantileGK",
   "quantilesGK", "sparkBar", "sumCount", "largestTriangleThreeBuckets", "histogram",
   "sequenceMatch", "sequenceCount", "windowFunnel", "retention", "uniqUpTo", "sequenceNextNode",
   "exponentialTimeDecayedAvg"]

/-- Endings that make another function of one over many rows. -/
def groupEndings : List String :=
  ["SimpleState", "MergeState", "OrDefault", "Distinct", "Resample", "ArrayIf", "ForEach", "OrNull",
   "ArgMin", "ArgMax", "Array", "State", "Merge", "Map", "If"]

/-- The name is one of a function over many rows, with any number of endings; `fuel` is at least the
number of endings. -/
def isGroupName : Nat → String → Bool
  | 0, name => groupStems.contains name
  | fuel + 1, name =>
    groupStems.contains name || groupEndings.any fun ending =>
      name.endsWith ending && name != ending
        && isGroupName fuel (name.dropEnd ending.length).toString

def clickhouseMeaning? (u : String) (args : List Expr) : Option Expr :=
  match u, args with
  | "MAP", _ => if args.length % 2 == 0 then some (pairedMap "map" args) else none
  | "MD5", [a] | "SHA1", [a] | "SHA256", [a] | "SHA512", [a] => some (phrase (u ++ "($1)") [a])
  | "TIMESTAMP_TRUNC", [a, p] => some (phrase "dateTrunc($2, $1)" [a, unitString p])
  | "TIMESTAMP_TRUNC", a :: p :: z :: _ =>
    some (phrase "dateTrunc($2, $1, $3)" [a, unitString p, z])
  | "DATE_DIFF", [p, a, b, z] | "DATEDIFF", [p, a, b, z] =>
    some (phrase "DATE_DIFF($3, $2, $1, $4)" [b, a, unitArgument p, z])
  | "SPLITBYSTRING", s :: a :: r => some (callOf "SPLIT" (a :: s :: r.take 1))
  | "SPLITBYREGEXP", s :: a :: r => some (callOf "REGEXP_SPLIT" (a :: s :: r.take 1))
  | "SPLITBYCHAR", .node (.string s) n xs :: a :: r =>
    if s.utf8ByteSize == 1 then some (callOf "SPLIT" (a :: .node (.string s) n xs :: r.take 1))
    else some (phrase "splitByChar(@1)" args)
  | "SPLITBYCHAR", _ => some (phrase "splitByChar(@1)" args)
  | "DATE_FORMAT", _ | "FORMATDATETIME", _ => some (phrase "formatDateTime(@1)" args)
  | "ILIKE", [a, b] => some (.of (.binary .likeFolded) [a, b])
  | "LIKE", [a, b] => some (.of (.binary .like) [a, b])
  | "NOTLIKE", [a, b] => some (.of (.unary .not) [.of (.binary .like) [a, b]])
  | _, _ :: _ =>
    (startNames.lookup u).map fun unit => phrase ("dateTrunc('" ++ unit ++ "', @1)") (args.take 2)
  | _, _ => none

end Function

end QueryFlow.Sql
