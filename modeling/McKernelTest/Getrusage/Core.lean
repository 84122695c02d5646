import McKernelTest.Perl.Number
import McKernelTest.Posix.Time
import McKernelTest.Text.Search
import McKernelTest.Text.Shell

/-!
# Resource usage

`show_rusage` prints a record of the resource usage of a process.  The functions of
`getrusage.common.sh` find the records in the output of a test case and compute the
differences of a field from record to record: `getrusage_time` for the times and
`getrusage_maxrss` for `ru_maxrss`.

The output is a text, so that `grep` prints the lines it finds.
-/

namespace McKernelTest.Getrusage

open Perl Posix Text

/-! ## Records -/

/-- A time that a process has used. -/
structure UsedTime extends Timeval where
  normalised : toTimeval.Normalised
  nonneg : 0 ≤ tvSec

/-- `struct rusage`.  The fields are `long`, which matters for `ru_maxrss` only. -/
structure Rusage where
  ruUtime : UsedTime
  ruStime : UsedTime
  ruMaxrss : Int
  ruIxrss : Int
  ruIdrss : Int
  ruIsrss : Int
  ruMinflt : Int
  ruMajflt : Int
  ruNswap : Int
  ruInblock : Int
  ruOublock : Int
  ruMsgsnd : Int
  ruMsgrcv : Int
  ruNsignals : Int
  ruNvcsw : Int
  ruNivcsw : Int
  isLong : -2 ^ 63 ≤ ruMaxrss ∧ ruMaxrss < 2 ^ 63

/-- The conversions `%lds + %ldus`. -/
def UsedTime.text (time : UsedTime) : List Char :=
  decimalInt time.tvSec ++ "s + ".toList ++ decimalInt time.tvUsec ++ "us".toList

/-- A line for a field. -/
def fieldLine (field value : List Char) : List Char :=
  "  ".toList ++ field ++ '=' :: value

/-- The fields that are printed only if they are not zero. -/
def Rusage.otherFields (usage : Rusage) : List (String × Int) :=
  [("ru_ixrss", usage.ruIxrss), ("ru_idrss", usage.ruIdrss), ("ru_isrss", usage.ruIsrss),
    ("ru_minflt", usage.ruMinflt), ("ru_majflt", usage.ruMajflt), ("ru_nswap", usage.ruNswap),
    ("ru_inblock", usage.ruInblock), ("ru_oublock", usage.ruOublock),
    ("ru_msgsnd", usage.ruMsgsnd), ("ru_msgrcv", usage.ruMsgrcv),
    ("ru_nsignals", usage.ruNsignals), ("ru_nvcsw", usage.ruNvcsw), ("ru_nivcsw", usage.ruNivcsw)]

def dashes : List Char :=
  "------------------------------".toList

/-- The lines of a record between the two lines of dashes. -/
def Rusage.lines (usage : Rusage) : List (List Char) :=
  ["show_rusage():".toList,
    fieldLine "ru_utime".toList usage.ruUtime.text,
    fieldLine "ru_stime".toList usage.ruStime.text,
    fieldLine "ru_maxrss".toList (decimalInt usage.ruMaxrss)] ++
  (usage.otherFields.filter (·.2 ≠ 0)).map fun field =>
    fieldLine field.1.toList (decimalInt field.2)

/-- `show_rusage`. -/
def showRusage : Option Rusage → List Char
  | none => "show_rusage(): usage is NULL".toList
  | some usage => ([dashes] ++ usage.lines ++ [dashes]).flatMap (· ++ ['\n'])

/-! ## The scripts -/

/-- `grep` with a pattern that has no special characters. -/
def grep (pattern stream : List Char) : List Char :=
  ((lines stream).filter fun line => (strstr line pattern).isSome).flatMap (· ++ ['\n'])

/-- The match of `/(\d+)s \+ (\d+)us/` at the beginning of a text.  The digits end at the
first character that is none, so that there is nothing to try again. -/
def matchHere (text : List Char) : Option (List Char × List Char) :=
  let sec := text.takeWhile Char.isDigit
  let behind := text.dropWhile Char.isDigit
  if sec ≠ [] ∧ "s + ".toList.isPrefixOf behind then
    let usec := (behind.drop 4).takeWhile Char.isDigit
    if usec ≠ [] ∧ "us".toList.isPrefixOf ((behind.drop 4).dropWhile Char.isDigit) then
      some (sec, usec)
    else
      none
  else
    none

/-- The first match in a line, with the texts of `$1` and `$2`. -/
def matchTime : List Char → Option (List Char × List Char)
  | [] => none
  | character :: text => (matchHere (character :: text)).or (matchTime text)

/-- The loop of the two Perl programs over the lines of their input.  Lines that are read
have their difference to the previous one printed, if there is one. -/
def perlLoop {α : Type} (read : List Char → Option α) (delta : α → α → List Char) :
    Option α → List (List Char) → List Char
  | _, [] => []
  | previous, line :: rest =>
      match read line with
      | none => perlLoop read delta previous rest
      | some value =>
          (match previous with
            | none => []
            | some before => delta before value ++ ['\n']) ++
          perlLoop read delta (some value) rest

/-- The difference that `getrusage_time` prints. -/
def timeDelta (before after : List Char × List Char) : List Char :=
  let sec := (numify after.1).sub (numify before.1)
  let usec := (numify after.2).sub (numify before.2)
  ((sec.mul (.int 1000000)).add usec).format

/-- The difference that `getrusage_maxrss` prints. -/
def maxrssDelta (before after : List Char) : List Char :=
  ((numify after).sub (numify before)).text

/-- A function of the script with its loop. -/
def getrusageDelta {α : Type} (read : List Char → Option α) (delta : α → α → List Char)
    (field file : List Char) (k : Nat) : List Char :=
  let input := onLines (cutField '=' 2) (grep field file)
  let temp := substitute (perlLoop read delta none ((lines input).map (· ++ ['\n'])))
  substitute (onLines (cutField ' ' k) (echo (words temp)))

/-- `getrusage_time`. -/
def getrusageTime : List Char → List Char → Nat → List Char :=
  getrusageDelta matchTime timeDelta

/-- `getrusage_maxrss`. -/
def getrusageMaxrss : List Char → List Char → Nat → List Char :=
  getrusageDelta some maxrssDelta

end McKernelTest.Getrusage
