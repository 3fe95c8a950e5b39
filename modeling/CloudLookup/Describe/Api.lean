/-! The provider's interfaces and what they speak. -/
namespace CloudLookup

inductive Protocol where
  | query
  | json (version target : String)
  | restJson
  deriving DecidableEq, Repr

inductive Api where
  | elastiCache
  | elasticsearch
  | ec2
  | kinesis
  | dynamoDb
  | rds
  deriving DecidableEq, Repr

namespace Api

/-- The name in host names and signatures. -/
def endpointName : Api → String
  | elastiCache => "elasticache"
  | elasticsearch => "es"
  | ec2 => "ec2"
  | kinesis => "kinesis"
  | dynamoDb => "dynamodb"
  | rds => "rds"

def version : Api → String
  | elastiCache => "2015-02-02"
  | elasticsearch => "2015-01-01"
  | ec2 => "2016-11-15"
  | kinesis => "2013-12-02"
  | dynamoDb => "2012-08-10"
  | rds => "2014-10-31"

def protocol : Api → Protocol
  | elastiCache | ec2 | rds => .query
  | elasticsearch => .restJson
  | kinesis => .json "1.1" "Kinesis_20131202"
  | dynamoDb => .json "1.0" "DynamoDB_20120810"

end Api

end CloudLookup
