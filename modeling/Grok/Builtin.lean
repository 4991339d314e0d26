/-!
The patterns that every library can start from, by topic.
-/
namespace Grok.Builtin

def identifierPatterns : List (String × String) :=
  [("USERNAME", "[a-zA-Z0-9._-]+"),
   ("USER", "%\x7bUSERNAME\x7d"),
   ("EMAILLOCALPART", "[a-zA-Z][a-zA-Z0-9_.+=:-]+"),
   ("EMAILADDRESS", "%\x7bEMAILLOCALPART\x7d@%\x7bHOSTNAME\x7d"),
   ("HTTPDUSER", "%\x7bEMAILADDRESS\x7d|%\x7bUSER\x7d")]

def numberPatterns : List (String × String) :=
  [("INT", "(?:[+-]?(?:[0-9]+))"),
   ("BASE10NUM", "(?<![0-9.+-])(?:[+-]?(?:(?:[0-9]+(?:\\.[0-9]+)?)|(?:\\.[0-9]+)))"),
   ("NUMBER", "(?:%\x7bBASE10NUM\x7d)"),
   ("BASE16NUM", "(?<![0-9A-Fa-f])(?:[+-]?(?:0x)?(?:[0-9A-Fa-f]+))"),
   ("BASE16FLOAT",
    "\\b(?<![0-9A-Fa-f.])(?:[+-]?(?:0x)?(?:(?:[0-9A-Fa-f]+(?:\\.[0-9A-Fa-f]*)?)|" ++
    "(?:\\.[0-9A-Fa-f]+)))\\b"),
   ("POSINT", "\\b(?:[1-9][0-9]*)\\b"),
   ("NONNEGINT", "\\b(?:[0-9]+)\\b")]

def textPatterns : List (String × String) :=
  [("WORD", "\\b\\w+\\b"),
   ("NOTSPACE", "\\S+"),
   ("SPACE", "\\s*"),
   ("DATA", ".*?"),
   ("GREEDYDATA", ".*"),
   ("QUOTEDSTRING", "(?:\"(?:\\\\.|[^\\\\\"])*\"|'(?:\\\\.|[^\\\\'])*'|`(?:\\\\.|[^\\\\`])*`)"),
   ("QS", "%\x7bQUOTEDSTRING\x7d"),
   ("UUID", "[A-Fa-f0-9]\x7b8\x7d-(?:[A-Fa-f0-9]\x7b4\x7d-)\x7b3\x7d[A-Fa-f0-9]\x7b12\x7d")]

/-- One group of hexadecimal digits in an address. -/
def hextet : String := "[0-9A-Fa-f]\x7b1,4\x7d"

/-- A number up to 255 without needless zeros. -/
def octet : String := "(25[0-5]|2[0-4]\\d|1\\d\\d|[1-9]?\\d)"

def dottedQuad : String := "(" ++ octet ++ "(\\." ++ octet ++ ")\x7b3\x7d)"

/-- A longer address written in full up to `count` groups and a colon, and then shortened to what
`tail` allows. -/
def shortened (count tail : String) : String :=
  "((" ++ hextet ++ ":)\x7b" ++ count ++ "\x7d(" ++ tail ++ "))"

/-- What may follow two colons: up to `most` groups, or a dotted quad after fewer of them. -/
def afterGap (most quadAfter : String) : String :=
  "((:" ++ hextet ++ ")\x7b1," ++ most ++ "\x7d)|" ++ quadAfter ++ "|:"

/-- A dotted quad after at most `most` groups. -/
def quadAfter (most : String) : String :=
  "((:" ++ hextet ++ ")\x7b0," ++ most ++ "\x7d:" ++ dottedQuad ++ ")"

def ipv6 : String :=
  "(" ++ "|".intercalate
    [shortened "7" (hextet ++ "|:"),
     shortened "6" (":" ++ hextet ++ "|" ++ dottedQuad ++ "|:"),
     shortened "5" (afterGap "2" (":" ++ dottedQuad)),
     shortened "4" (afterGap "3" ("((:" ++ hextet ++ ")?:" ++ dottedQuad ++ ")")),
     shortened "3" (afterGap "4" (quadAfter "2")),
     shortened "2" (afterGap "5" (quadAfter "3")),
     shortened "1" (afterGap "6" (quadAfter "4")),
     "(:(" ++ afterGap "7" (quadAfter "5") ++ "))"] ++ ")(%.+)?"

/-- A number up to 255, leading zeros allowed. -/
def paddedOctet : String := "(?:[0-1]?[0-9]\x7b1,2\x7d|2[0-4][0-9]|25[0-5])"

def ipv4 : String :=
  "(?<![0-9])(?:" ++ "[.]".intercalate [paddedOctet, paddedOctet, paddedOctet, paddedOctet] ++
    ")(?![0-9])"

def networkPatterns : List (String × String) :=
  [("CISCOMAC", "(?:(?:[A-Fa-f0-9]\x7b4\x7d\\.)\x7b2\x7d[A-Fa-f0-9]\x7b4\x7d)"),
   ("WINDOWSMAC", "(?:(?:[A-Fa-f0-9]\x7b2\x7d-)\x7b5\x7d[A-Fa-f0-9]\x7b2\x7d)"),
   ("COMMONMAC", "(?:(?:[A-Fa-f0-9]\x7b2\x7d:)\x7b5\x7d[A-Fa-f0-9]\x7b2\x7d)"),
   ("MAC", "(?:%\x7bCISCOMAC\x7d|%\x7bWINDOWSMAC\x7d|%\x7bCOMMONMAC\x7d)"),
   ("IPV6", ipv6),
   ("IPV4", ipv4),
   ("IP", "(?:%\x7bIPV6\x7d|%\x7bIPV4\x7d)"),
   ("HOSTNAME",
    "\\b(?:[0-9A-Za-z][0-9A-Za-z-]\x7b0,62\x7d)(?:\\." ++
    "(?:[0-9A-Za-z][0-9A-Za-z-]\x7b0,62\x7d))*(?:\\.?|\\b)"),
   ("IPORHOST", "(?:%\x7bIP\x7d|%\x7bHOSTNAME\x7d)"),
   ("HOSTPORT", "%\x7bIPORHOST\x7d:%\x7bPOSINT\x7d")]

def pathPatterns : List (String × String) :=
  [("UNIXPATH", "(?:/[\\w%!$@:.,+~-]*)+"),
   ("WINPATH", "(?:[A-Za-z]+:|\\\\)(?:\\\\[^\\\\?*]*)+"),
   ("PATH", "(?:%\x7bUNIXPATH\x7d|%\x7bWINPATH\x7d)"),
   ("URIPROTO", "[A-Za-z][A-Za-z0-9+.-]+"),
   ("URIHOST", "%\x7bIPORHOST\x7d(?::%\x7bPOSINT\x7d)?"),
   ("URIPATH", "(?:/[A-Za-z0-9$.+!*'()\x7b\x7d,~:;=@#%&_\\-]*)+"),
   ("URIPARAM", "\\?[A-Za-z0-9$.+!*'|()\x7b\x7d,~@#%&/=:;_?\\-\\[\\]<>]*"),
   ("URIPATHPARAM", "%\x7bURIPATH\x7d(?:%\x7bURIPARAM\x7d)?"),
   ("URI",
    "%\x7bURIPROTO\x7d://(?:%\x7bUSER\x7d(?::[^@]*)?@)?(?:%\x7bURIHOST\x7d)?(?:" ++
    "%\x7bURIPATHPARAM\x7d)?")]

def months : List String :=
  ["[Jj]an(?:uary|uar)?", "[Ff]eb(?:ruary|ruar)?", "[Mm](?:a|ä)?r(?:ch|z)?", "[Aa]pr(?:il)?",
   "[Mm]a(?:y|i)?", "[Jj]un(?:e|i)?", "[Jj]ul(?:y)?", "[Aa]ug(?:ust)?", "[Ss]ep(?:tember)?",
   "[Oo](?:c|k)?t(?:ober)?", "[Nn]ov(?:ember)?", "[Dd]e(?:c|z)(?:ember)?"]

def timePatterns : List (String × String) :=
  [("MONTH", "\\b(?:" ++ "|".intercalate months ++ ")\\b"),
   ("MONTHNUM", "(?:0?[1-9]|1[0-2])"),
   ("MONTHNUM2", "(?:0[1-9]|1[0-2])"),
   ("MONTHDAY", "(?:(?:0[1-9])|(?:[12][0-9])|(?:3[01])|[1-9])"),
   ("DAY",
    "(?:Mon(?:day)?|Tue(?:sday)?|Wed(?:nesday)?|Thu(?:rsday)?|Fri(?:day)?|Sat(?:urday)?|Sun" ++
    "(?:day)?)"),
   ("YEAR", "(?:\\d\\d)\x7b1,2\x7d"),
   ("HOUR", "(?:2[0123]|[01]?[0-9])"),
   ("MINUTE", "(?:[0-5][0-9])"),
   ("SECOND", "(?:(?:[0-5]?[0-9]|60)(?:[:.,][0-9]+)?)"),
   ("TIME", "(?<![0-9])%\x7bHOUR\x7d:%\x7bMINUTE\x7d(?::%\x7bSECOND\x7d)(?![0-9])"),
   ("DATE_US", "%\x7bMONTHNUM\x7d[/-]%\x7bMONTHDAY\x7d[/-]%\x7bYEAR\x7d"),
   ("DATE_EU", "%\x7bMONTHDAY\x7d[./-]%\x7bMONTHNUM\x7d[./-]%\x7bYEAR\x7d"),
   ("ISO8601_TIMEZONE", "(?:Z|[+-]%\x7bHOUR\x7d(?::?%\x7bMINUTE\x7d))"),
   ("TIMESTAMP_ISO8601",
    "%\x7bYEAR\x7d-%\x7bMONTHNUM\x7d-%\x7bMONTHDAY\x7d[T ]%\x7bHOUR\x7d:?%\x7bMINUTE\x7d" ++
    "(?::?%\x7bSECOND\x7d)?%\x7bISO8601_TIMEZONE\x7d?"),
   ("DATE", "%\x7bDATE_US\x7d|%\x7bDATE_EU\x7d"),
   ("DATESTAMP", "%\x7bDATE\x7d[- ]%\x7bTIME\x7d"),
   ("TZ", "(?:[APMCE][SD]T|UTC)"),
   ("HTTPDATE", "%\x7bMONTHDAY\x7d/%\x7bMONTH\x7d/%\x7bYEAR\x7d:%\x7bTIME\x7d %\x7bINT\x7d")]

def syslogPatterns : List (String × String) :=
  [("SYSLOGTIMESTAMP", "%\x7bMONTH\x7d +%\x7bMONTHDAY\x7d %\x7bTIME\x7d"),
   ("PROG", "[\\x21-\\x5a\\x5c\\x5e-\\x7e]+"),
   ("SYSLOGPROG", "%\x7bPROG:program\x7d(?:\\[%\x7bPOSINT:pid\x7d\\])?"),
   ("SYSLOGHOST", "%\x7bIPORHOST\x7d"),
   ("SYSLOGFACILITY", "<%\x7bNONNEGINT:facility\x7d.%\x7bNONNEGINT:priority\x7d>"),
   ("SYSLOGBASE",
    "%\x7bSYSLOGTIMESTAMP:timestamp\x7d (?:%\x7bSYSLOGFACILITY\x7d )?" ++
    "%\x7bSYSLOGHOST:logsource\x7d %\x7bSYSLOGPROG\x7d:"),
   ("SYSLOGLINE", "%\x7bSYSLOGBASE\x7d %\x7bGREEDYDATA:message\x7d")]

def levels : List String :=
  ["[Aa]lert", "ALERT", "[Tt]race", "TRACE", "[Dd]ebug", "DEBUG", "[Nn]otice", "NOTICE",
   "[Ii]nfo?(?:rmation)?", "INFO?(?:RMATION)?", "[Ww]arn?(?:ing)?", "WARN?(?:ING)?",
   "[Ee]rr?(?:or)?", "ERR?(?:OR)?", "[Cc]rit?(?:ical)?", "CRIT?(?:ICAL)?", "[Ff]atal", "FATAL",
   "[Ss]evere", "SEVERE", "EMERG(?:ENCY)?", "[Ee]merg(?:ency)?"]

def levelPatterns : List (String × String) :=
  [("LOGLEVEL", "(" ++ "|".intercalate levels ++ ")")]

def webPatterns : List (String × String) :=
  [("COMMONAPACHELOG",
    "%\x7bIPORHOST:clientip\x7d %\x7bHTTPDUSER:ident\x7d %\x7bUSER:auth\x7d \\[" ++
    "%\x7bHTTPDATE:timestamp\x7d\\] \"(?:%\x7bWORD:verb\x7d %\x7bNOTSPACE:request\x7d" ++
    "(?: HTTP/%\x7bNUMBER:httpversion\x7d)?|%\x7bDATA:rawrequest\x7d)\" " ++
    "%\x7bNUMBER:response\x7d (?:%\x7bNUMBER:bytes\x7d|-)"),
   ("COMBINEDAPACHELOG", "%\x7bCOMMONAPACHELOG\x7d %\x7bQS:referrer\x7d %\x7bQS:agent\x7d")]

/-- The built-in definitions, in the order in which they are added. -/
def patterns : List (String × String) :=
  identifierPatterns ++ numberPatterns ++ textPatterns ++ networkPatterns ++ pathPatterns ++
    timePatterns ++ syslogPatterns ++ levelPatterns ++ webPatterns

end Grok.Builtin
