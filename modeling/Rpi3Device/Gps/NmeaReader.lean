import Rpi3Device.BoundedLoop

/-!
# The NMEA reader of the emulated GPS

Bytes of the GPS daemon are collected into lines, a complete line is cut into
comma separated tokens, and the sentences with identifier GGA and RMC update a
fix that the reader keeps from one sentence to the next. Pointers into the line
are offsets. The library functions the parser calls are a parameter: `strtod`
reads the bytes before the terminating zero, `mktime` a broken down time.
-/

namespace Rpi3Device.Gps

structure Tm where
  sec : Int32
  min : Int32
  hour : Int32
  mday : Int32
  mon : Int32
  year : Int32
  yday : Int32 := 0
  isdst : Int32 := 0

structure Libc where
  strtod : List UInt8 → Float
  mktime : Tm → Int64

structure Token where
  buf : List UInt8
  p : ℕ
  end_ : ℕ

namespace Token

/-- The byte that `tok.p[i]` reads; a string constant ends with a zero byte. -/
def at_ (tok : Token) (i : ℕ) : UInt8 := tok.buf.getD (tok.p + i) 0

def length (tok : Token) : ℕ := tok.end_ - tok.p

def slice (tok : Token) (i j : ℕ) : List UInt8 := (tok.buf.drop (tok.p + i)).take (j - i)

def text (tok : Token) : List UInt8 := tok.slice 0 tok.length

end Token

def maxNmeaTokens : ℕ := 16

structure NmeaTokenizer where
  tokens : List Token

def memchr (buf : List UInt8) (c : UInt8) (p end_ : ℕ) : Option ℕ :=
  (List.range' p (end_ - p)).find? fun i => buf.getD i 0 = c

namespace NmeaTokenizer

def count (t : NmeaTokenizer) : ℕ := t.tokens.length

def splitBody (buf : List UInt8) (end_ : ℕ) : ℕ × List Token → ℕ × List Token ⊕ List Token
  | (p, tokens) =>
    if p < end_ then
      let q := (memchr buf 44 p end_).getD end_
      let tokens := if tokens.length < maxNmeaTokens then tokens ++ [⟨buf, p, q⟩] else tokens
      .inl (if q < end_ then q + 1 else q, tokens)
    else .inr tokens

def split (buf : List UInt8) (p end_ : ℕ) : List Token :=
  BoundedLoop.measured (splitBody buf end_) (fun s => end_ - s.1) [] (p, [])

def bodyStart (buf : List UInt8) (p end_ : ℕ) : ℕ :=
  if p < end_ ∧ buf.getD p 0 = 36 then p + 1 else p

def dropNewline (buf : List UInt8) (p end_ : ℕ) : ℕ :=
  if p < end_ ∧ buf.getD (end_ - 1) 0 = 10 then
    if p < end_ - 1 ∧ buf.getD (end_ - 2) 0 = 13 then end_ - 2 else end_ - 1
  else end_

def dropChecksum (buf : List UInt8) (p end_ : ℕ) : ℕ :=
  if p + 3 ≤ end_ ∧ buf.getD (end_ - 3) 0 = 42 then end_ - 3 else end_

def init (buf : List UInt8) (p end_ : ℕ) : NmeaTokenizer :=
  let p := bodyStart buf p end_
  let end_ := dropNewline buf p end_
  let end_ := dropChecksum buf p end_
  ⟨split buf p end_⟩

def get (t : NmeaTokenizer) (index : ℕ) : Token := t.tokens.getD index ⟨[], 0, 0⟩

theorem splitBody_decreases (buf : List UInt8) (end_ : ℕ) :
    BoundedLoop.Decreases (splitBody buf end_) fun s => end_ - s.1 := by
  intro h s' hs
  obtain ⟨p, tokens⟩ := h
  simp only [splitBody] at hs
  by_cases hp : p < end_
  · rw [if_pos hp] at hs
    have hq : p ≤ (memchr buf 44 p end_).getD end_ := by
      cases hm : memchr buf 44 p end_ with
      | none => exact hp.le
      | some i =>
        have hmem := List.mem_of_find?_eq_some hm
        exact (List.mem_range'_1.mp hmem).1
    obtain rfl := Sum.inl.inj hs
    simp only
    split <;> omega
  · rw [if_neg hp] at hs
    cases hs

end NmeaTokenizer

def str2intFrom (result : Int32) : List UInt8 → Int32
  | [] => result
  | b :: bs =>
    if 48 ≤ b ∧ b < 58 then str2intFrom (result * 10 + (b - 48).toInt8.toInt32) bs else -1

def str2int (text : List UInt8) : Int32 := str2intFrom 0 text

def str2float (libc : Libc) (text : List UInt8) : Float :=
  if 16 ≤ text.length then 0 else libc.strtod text

def convertFromHhmm (libc : Libc) (tok : Token) : Float :=
  let val := str2float libc tok.text
  let degrees := (val.floor / 100).toInt32
  let minutes := val - degrees.toFloat * 100
  degrees.toFloat + minutes / 60

def hasLatLong : UInt16 := 0x0001
def hasAltitude : UInt16 := 0x0002
def hasSpeed : UInt16 := 0x0004
def hasBearing : UInt16 := 0x0008
def hasAccuracy : UInt16 := 0x0010

structure GpsLocation where
  flags : UInt16
  latitude : Float
  longitude : Float
  altitude : Float
  speed : Float32
  bearing : Float32
  accuracy : Float32
  timestamp : Int64

def nmeaMaxSize : ℕ := 83

/-- `in_` holds the first `pos` bytes of the source's line buffer. -/
structure NmeaReader where
  overflow : Bool
  utcYear : Int32
  utcMon : Int32
  utcDay : Int32
  utcDiff : Int32
  fix : GpsLocation
  callback : Bool
  in_ : List UInt8

/-- A call of the location callback: for a sentence that was parsed, or with the
latest fix when a new callback is set. -/
inductive Callback where
  | parsed (sentence : List UInt8) (fix : GpsLocation)
  | latest (fix : GpsLocation)

namespace NmeaReader

def pos (r : NmeaReader) : ℕ := r.in_.length

def secondsOf (tm : Tm) : Int32 :=
  tm.sec + 60 * (tm.min + 60 * (tm.hour + 24 * (tm.yday + 365 * tm.year)))

def updateUtcDiff (tmUtc tmLocal : Tm) (r : NmeaReader) : NmeaReader :=
  { r with utcDiff := secondsOf tmUtc - secondsOf tmLocal }

def init (tmUtc tmLocal : Tm) : NmeaReader :=
  updateUtcDiff tmUtc tmLocal
    { overflow := false, utcYear := -1, utcMon := -1, utcDay := -1, utcDiff := 0,
      fix := ⟨0, 0, 0, 0, 0, 0, 0, 0⟩, callback := false, in_ := [] }

def setCallback (r : NmeaReader) (cb : Bool) : NmeaReader × List Callback :=
  let r := { r with callback := cb }
  (r, if cb ∧ r.fix.flags ≠ 0 then [.latest r.fix] else [])

def withDate (now : Tm) (r : NmeaReader) : NmeaReader :=
  if r.utcYear < 0 then
    { r with utcYear := now.year + 1900, utcMon := now.mon + 1, utcDay := now.mday }
  else r

def updateTime (libc : Libc) (now : Tm) (tok : Token) (r : NmeaReader) : Int32 × NmeaReader :=
  if tok.end_ < tok.p + 6 then (-1, r)
  else
    let r := r.withDate now
    let seconds := str2float libc (tok.slice 4 tok.length)
    let tm : Tm :=
      { hour := str2int (tok.slice 0 2), min := str2int (tok.slice 2 4),
        sec := seconds.toInt32, year := r.utcYear - 1900, mon := r.utcMon - 1,
        mday := r.utcDay, isdst := -1 }
    let fixTime := libc.mktime tm - r.utcDiff.toInt64
    (0, { r with fix := { r.fix with timestamp := fixTime * 1000 } })

def updateDate (libc : Libc) (now : Tm) (date time : Token) (r : NmeaReader) :
    Int32 × NmeaReader :=
  if date.p + 6 ≠ date.end_ then (-1, r)
  else
    let day := str2int (date.slice 0 2)
    let mon := str2int (date.slice 2 4)
    let year := str2int (date.slice 4 6) + 2000
    if day ||| mon ||| year < 0 then (-1, r)
    else updateTime libc now time { r with utcYear := year, utcMon := mon, utcDay := day }

def latlong (libc : Libc) (latitude : Token) (latitudeHemi : UInt8) (longitude : Token)
    (longitudeHemi : UInt8) : Option (Float × Float) :=
  if latitude.end_ < latitude.p + 6 then none
  else
    let lat := convertFromHhmm libc latitude
    let lat := if latitudeHemi = 83 then -lat else lat
    if longitude.end_ < longitude.p + 6 then none
    else
      let lon := convertFromHhmm libc longitude
      let lon := if longitudeHemi = 87 then -lon else lon
      some (lat, lon)

def updateLatlong (libc : Libc) (latitude : Token) (latitudeHemi : UInt8) (longitude : Token)
    (longitudeHemi : UInt8) (r : NmeaReader) : Int32 × NmeaReader :=
  match latlong libc latitude latitudeHemi longitude longitudeHemi with
  | none => (-1, r)
  | some (lat, lon) =>
    (0, { r with fix := { r.fix with
      flags := r.fix.flags ||| hasLatLong, latitude := lat, longitude := lon } })

def updateAltitude (libc : Libc) (altitude : Token) (r : NmeaReader) : Int32 × NmeaReader :=
  if altitude.end_ ≤ altitude.p then (-1, r)
  else (0, { r with fix := { r.fix with
    flags := r.fix.flags ||| hasAltitude, altitude := str2float libc altitude.text } })

def updateBearing (libc : Libc) (bearing : Token) (r : NmeaReader) : Int32 × NmeaReader :=
  if bearing.end_ ≤ bearing.p then (-1, r)
  else (0, { r with fix := { r.fix with
    flags := r.fix.flags ||| hasBearing,
    bearing := (str2float libc bearing.text).toFloat32 } })

def updateSpeed (libc : Libc) (speed : Token) (r : NmeaReader) : Int32 × NmeaReader :=
  if speed.end_ ≤ speed.p then (-1, r)
  else (0, { r with fix := { r.fix with
    flags := r.fix.flags ||| hasSpeed, speed := (str2float libc speed.text).toFloat32 } })

def updateAccuracy (r : NmeaReader) : Int32 × NmeaReader :=
  (0, { r with fix := { r.fix with flags := r.fix.flags ||| hasAccuracy, accuracy := 20 } })

def clearFlags (r : NmeaReader) : NmeaReader := { r with fix := { r.fix with flags := 0 } }

end NmeaReader

def NmeaTokenizer.sentenceId (t : NmeaTokenizer) : List UInt8 := (t.get 0).slice 2 5

def gga : List UInt8 := [71, 71, 65]
def gsa : List UInt8 := [71, 83, 65]
def rmc : List UInt8 := [82, 77, 67]

namespace NmeaReader

def parseGga (libc : Libc) (now : Tm) (t : NmeaTokenizer) (r : NmeaReader) : NmeaReader :=
  let r := r.clearFlags
  let r := (r.updateTime libc now (t.get 1)).2
  let r := (r.updateLatlong libc (t.get 2) ((t.get 3).at_ 0) (t.get 4) ((t.get 5).at_ 0)).2
  (r.updateAltitude libc (t.get 9)).2

def parseRmc (libc : Libc) (now : Tm) (t : NmeaTokenizer) (r : NmeaReader) : NmeaReader :=
  if (t.get 2).at_ 0 = 65 then
    let r := r.clearFlags
    let r := (r.updateDate libc now (t.get 9) (t.get 1)).2
    let r := (r.updateLatlong libc (t.get 3) ((t.get 4).at_ 0) (t.get 5) ((t.get 6).at_ 0)).2
    let r := (r.updateBearing libc (t.get 8)).2
    (r.updateSpeed libc (t.get 7)).2
  else r

def parseSentence (libc : Libc) (now : Tm) (t : NmeaTokenizer) (r : NmeaReader) : NmeaReader :=
  if t.sentenceId = gga then r.parseGga libc now t
  else if t.sentenceId = gsa then r
  else if t.sentenceId = rmc then r.parseRmc libc now t
  else r

def parse (libc : Libc) (now : Tm) (r : NmeaReader) : NmeaReader × List Callback :=
  if r.pos < 9 then (r, [])
  else
    let t := NmeaTokenizer.init r.in_ 0 r.pos
    if (t.get 0).end_ < (t.get 0).p + 5 then (r, [])
    else
      let r' := (r.parseSentence libc now t).updateAccuracy.2
      (r', if r'.fix.flags ≠ 0 ∧ r'.callback then [.parsed r.in_ r'.fix] else [])

def addc (libc : Libc) (now : Tm) (c : UInt8) (r : NmeaReader) : NmeaReader × List Callback :=
  if r.overflow then ({ r with overflow := c ≠ 10 }, [])
  else if nmeaMaxSize ≤ r.pos then ({ r with overflow := true, in_ := [] }, [])
  else
    let r := { r with in_ := r.in_ ++ [c] }
    if c = 10 then
      let res := r.parse libc now
      ({ res.1 with in_ := [] }, res.2)
    else (r, [])

end NmeaReader
end Rpi3Device.Gps
