import Banjax.Lib.Bits
import Banjax.Lib.Bytes
import Banjax.Lib.Run
import Banjax.Net.Address
import Banjax.Store.IpDb
import Banjax.Token.Base64
import Banjax.Token.Binding
import Banjax.Token.CookieHash
import Banjax.Token.Jar
import Banjax.Challenger.Defs
import Banjax.Challenger.Check
import Banjax.Challenger.Failures
import Banjax.Challenger.Record
import Banjax.Challenger.Gate
import Banjax.Challenger.Response
import Banjax.Challenger.Overflow
import Banjax.Challenger.Budget
import Banjax.Challenger.Soundness
import Banjax.Regex.Defs
import Banjax.Regex.Scan
import Banjax.Regex.Rate
import Banjax.Config.Defs
import Banjax.Config.Reading
import Banjax.Config.Globals
import Banjax.Config.Outline
import Banjax.Config.Priorities
import Banjax.Token.Canonical
import Banjax.Token.Print
import Banjax.Challenger.Browser
import Banjax.Swabber.Defs
import Banjax.Swabber.Grace
import Banjax.Swabber.Denialator
import Banjax.Swabber.Automaton
import Banjax.Challenger.Twice
import Banjax.Challenger.Interleave
import Banjax.Lib.Purge
import Banjax.Swabber.Isolation
import Banjax.Challenger.Isolation
import Banjax.Regex.Banner
import Banjax.Server.Defs
import Banjax.Server.Isolation
import Banjax.Server.WhiteList
import Banjax.Token.Language
import Banjax.Challenger.FixedReads
import Banjax.Regex.Hits
import Banjax.Regex.Wipe
import Banjax.Regex.Skip
import Banjax.Challenger.Parse
import Banjax.Lib.Expiry
import Banjax.Challenger.Dynamic
import Banjax.Kafka.Consume
import Banjax.Kafka.Reload
import Banjax.Transaction.Events
import Banjax.Transaction.BotSniffer
import Banjax.Lib.Access
import Banjax.Lib.Journal
import Banjax.Config.Merge
import Banjax.Token.Buffer
import Banjax.Token.View
import Banjax.Token.Segments
import Banjax.Challenger.Range
import Banjax.Challenger.Exempt
import Banjax.Challenger.Select
import Banjax.Challenger.Accepts
import Banjax.Server.Loaders
import Banjax.Transaction.HostCase
import Banjax.Lib.Search
import Banjax.Challenger.Query
import Banjax.Transaction.Parts
import Banjax.Transaction.Order
import Banjax.Swabber.Quotes
import Banjax.Swabber.Endpoint
import Banjax.Lib.Leading
import Banjax.Challenger.Difficulty
import Banjax.Regex.Arithmetic
import Banjax.Lib.Gif
import Banjax.Captcha.Font
import Banjax.Captcha.Defs
import Banjax.Captcha.File
import Banjax.Captcha.Drawing
import Banjax.Lib.Slots
import Banjax.Swabber.Load
import Banjax.Server.Plugin
import Banjax.Server.Handover
import Banjax.Server.Sockets
import Banjax.Server.Endpoints
import Banjax.Server.Events
import Banjax.Lib.Multipart
import Banjax.Transaction.Wire
import Banjax.Lib.Template
import Banjax.Challenger.Page
import Banjax.Challenger.Exchange
