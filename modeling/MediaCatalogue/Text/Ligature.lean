import MediaCatalogue.Unicode.Category
import MediaCatalogue.Unicode.Column

/-! Letters that are drawn as one and fill the columns of one. -/

namespace MediaCatalogue

/-- The scripts that have such letters. -/
inductive Ligature where
  | arabic
  | hebrew
  | buginese
  | lisu
  | oldTurkic
  | tifinagh
  | khmer
  deriving DecidableEq

namespace Ligature

def all : List Ligature := [arabic, hebrew, buginese, lisu, oldTurkic, tifinagh, khmer]

def joiner : Unicode.CodeSet := .ofLines ["200D"]

def arabicLam : Unicode.CodeSet := .ofLines ["644 6B5-6B8 76A 8A6 8C7"]

def arabicAlef : Unicode.CodeSet := .ofLines
  ["622-623 625 627 671-673 675 773-774 870-882"]

def hebrewAlef : Unicode.CodeSet := .ofLines ["5D0"]

def hebrewLamed : Unicode.CodeSet := .ofLines ["5DC"]

def bugineseA : Unicode.CodeSet := .ofLines ["1A15"]

def bugineseI : Unicode.CodeSet := .ofLines ["1A17"]

def bugineseYa : Unicode.CodeSet := .ofLines ["1A10"]

def lisuTone : Unicode.CodeSet := .ofLines ["A4F8-A4FB"]

def lisuSecondTone : Unicode.CodeSet := .ofLines ["A4FC-A4FD"]

def orkhonEc : Unicode.CodeSet := .ofLines ["10C32"]

def orkhonI : Unicode.CodeSet := .ofLines ["10C03"]

def tifinaghConsonant : Unicode.CodeSet := .ofLines ["2D31-2D65 2D6F"]

def tifinaghJoiner : Unicode.CodeSet := .ofLines ["200D 2D7F"]

def khmerCoeng : Unicode.CodeSet := .ofLines ["17D2"]

def khmerLetter : Unicode.CodeSet := .ofLines
  ["1780-1782 1784-1787 1789-178C 178E-1793 1795-1798 179B-179D 17A0 17A2 17A7 17AB-17AC 17AF"]

/-- What the ligature starts with, and what has to follow. -/
def parts : Ligature → Unicode.CodeSet × List Unicode.CodeSet
  | arabic => (arabicLam, [arabicAlef])
  | hebrew => (hebrewAlef, [joiner, hebrewLamed])
  | buginese => (bugineseA, [bugineseI, joiner, bugineseYa])
  | lisu => (lisuTone, [lisuSecondTone])
  | oldTurkic => (orkhonEc, [joiner, orkhonI])
  | tifinagh => (tifinaghConsonant, [tifinaghJoiner, tifinaghConsonant])
  | khmer => (khmerCoeng, [khmerLetter])

/-- Marks and joiners that do not come between the parts of a ligature. -/
def transparent : Unicode.CodeSet := .ofLines
  ["34F 17B4-17B5 180B-180D 180F 200D FE00-FE0F E0100-E01EF"]

/-- Signs that letters of Arabic do not join across, though they fill no column. -/
def arabicBarrier : Unicode.CodeSet := .ofLines ["600-605 6DD 8E2 180E 200C-200D 2066-2069"]

/-- Whether a character may stand between the parts. -/
def skips (l : Ligature) (c : Char) : Bool :=
  if l = arabic then
    Unicode.zeroWidth.contains c && !arabicBarrier.contains c &&
      ["Mn", "Me", "Cf"].contains (Unicode.category c)
  else transparent.contains c

/-- The ligature that a character can start. -/
def ofFirst? (c : Char) : Option Ligature := all.find? fun l => l.parts.1.contains c

/-- What a character is to a ligature of which `read` parts behind the first are read: its last part,
one of its parts or something between them, or no part of it. -/
inductive Role where
  | last
  | inner (read : Nat)
  | other
  deriving DecidableEq

def role (l : Ligature) (read : Nat) (c : Char) : Role :=
  match l.parts.2.drop read with
  | [] => .other
  | part :: more =>
    if part.contains c then if more.isEmpty then .last else .inner (read + 1)
    else if l.skips c then .inner read
    else .other

end Ligature

end MediaCatalogue
